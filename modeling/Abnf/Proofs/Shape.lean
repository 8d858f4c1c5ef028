import Abnf.Proofs.Tree

/-!
# Rules that ABNF can write

ABNF writes definitions on four levels: an alternation of concatenations of repetitions of elements,
where a group starts over at the top and brackets stand around an element.  Trees of that shape are
`Shaped`.

Two trees of that shape may still be written alike: inside brackets it does not matter whether the
element stands in a group, and a literal that is given by codes does not show its casing.  `Alike`
is the least congruence with these two identifications.  Two trees are alike exactly when they have
the same canonical form (`alike_iff`), in which all brackets hold a group and all codes the same
casing.
-/

namespace Abnf

/-- The levels of a definition, from the one that binds least to the one that binds most. -/
inductive Level where
  /-- Choices with slashes in between. -/
  | alternation
  /-- Elements one after the other. -/
  | concatenation
  /-- An element with its bounds in front. -/
  | repetition
  /-- A single element. -/
  | element
deriving DecidableEq, Repr, Inhabited

/-- Whether a character may stand in the name of a rule. -/
def nameChar (c : Char) : Bool := c.isAlphanum || c == '-'

/-- A name is a letter and then letters, digits and hyphens. -/
def isRulename (name : String) : Bool :=
  match name.toList with
  | [] => false
  | c :: rest => c.isAlpha && rest.all nameChar

lemma nameChar_of_isRulename {name : String} (h : isRulename name = true) :
    ∀ c ∈ name.toList, nameChar c = true := by
  rw [isRulename] at h
  split at h
  · exact absurd h (by simp)
  · next c rest heq =>
    rw [Bool.and_eq_true] at h
    intro d hd
    rw [heq] at hd
    rcases List.mem_cons.1 hd with rfl | hrest
    · simp [nameChar, Char.isAlphanum, h.1]
    · exact List.all_eq_true.1 h.2 d hrest

/-- The trees that ABNF text describes, by the level on which they stand. -/
inductive Shaped : Level → Node → Prop
  /-- An alternation has at least two choices. -/
  | alternation {choices : List Node} : 2 ≤ choices.length →
      (∀ choice ∈ choices, Shaped .concatenation choice) →
      Shaped .alternation (.alternation choices)
  /-- A concatenation is an alternation with a single choice. -/
  | single {node : Node} : Shaped .concatenation node → Shaped .alternation node
  /-- A concatenation has at least two elements. -/
  | concatenation {elements : List Node} : 2 ≤ elements.length →
      (∀ element ∈ elements, Shaped .repetition element) →
      Shaped .concatenation (.concatenation elements)
  /-- A repetition is a concatenation of one element. -/
  | alone {node : Node} : Shaped .repetition node → Shaped .concatenation node
  /-- A repetition repeats an element. -/
  | repetition {element : Node} {bounds : Repeat} : Shaped .element element →
      Shaped .repetition (.repetition element bounds)
  /-- An element is a repetition without bounds. -/
  | once {node : Node} : Shaped .element node → Shaped .repetition node
  /-- A reference to a name. -/
  | reference {name : String} : isRulename name → Shaped .element (.reference name)
  /-- A literal in quotes, which it must not close. -/
  | quoted {casing : Casing} {text : String} : '"' ∉ text.toList →
      Shaped .element (.literal casing text none)
  /-- A literal by the codes of its characters, of which there is at least one. -/
  | coded {casing : Casing} {text : String} {base : Base} : text ≠ "" →
      Shaped .element (.literal casing text (some base))
  /-- A range of characters. -/
  | range {first last : UInt32} {base : Base} : Shaped .element (.range first last base)
  /-- Prose, which must not close its angle brackets. -/
  | prose {text : String} : '>' ∉ text.toList → Shaped .element (.prose text)
  /-- An alternation in parentheses. -/
  | group {inner : Node} : Shaped .alternation inner → Shaped .element (.group inner)
  /-- An element in brackets. -/
  | optional {element : Node} : Shaped .element element →
      Shaped .element (.repetition element ⟨0, some 1⟩)

/-- What stands inside brackets may be anything that may stand inside parentheses. -/
lemma Shaped.unwrapped {node : Node} (h : Shaped .element node) :
    Shaped .alternation node.unwrapped := by
  cases hgroup : node.isGroup with
  | true =>
    obtain ⟨inner, rfl⟩ := Node.exists_eq_group hgroup
    cases h with
    | group hinner => exact hinner
  | false =>
    rw [Node.unwrapped_eq_self hgroup]
    exact h.once.alone.single

/-- A rule with a proper name and a definition of the shape of ABNF. -/
def Node.ShapedRule : Node → Prop
  | .rule name definition => isRulename name ∧ Shaped .alternation definition
  | _ => False

/-- Trees that are the same up to groups directly inside brackets and the casing of codes. -/
inductive Alike : Node → Node → Prop
  /-- A group that holds no group may stand directly inside brackets or be left out. -/
  | optional {inner : Node} : inner.isGroup = false →
      Alike (.repetition (.group inner) ⟨0, some 1⟩) (.repetition inner ⟨0, some 1⟩)
  /-- Codes do not show the casing. -/
  | coded (casing casing' : Casing) (text : String) (base : Base) :
      Alike (.literal casing text (some base)) (.literal casing' text (some base))
  /-- Every tree is like itself. -/
  | refl (node : Node) : Alike node node
  /-- The relation goes both ways. -/
  | symm {node other : Node} : Alike node other → Alike other node
  /-- The relation is transitive. -/
  | trans {node other third : Node} : Alike node other → Alike other third → Alike node third
  /-- Below a rule. -/
  | rule (name : String) {definition other : Node} : Alike definition other →
      Alike (.rule name definition) (.rule name other)
  /-- At some place of a concatenation. -/
  | concatenation (before after : List Node) {element other : Node} : Alike element other →
      Alike (.concatenation (before ++ element :: after))
        (.concatenation (before ++ other :: after))
  /-- At some place of an alternation. -/
  | alternation (before after : List Node) {choice other : Node} : Alike choice other →
      Alike (.alternation (before ++ choice :: after)) (.alternation (before ++ other :: after))
  /-- Inside a group. -/
  | group {inner other : Node} : Alike inner other → Alike (.group inner) (.group other)
  /-- Below a repetition. -/
  | repetition (bounds : Repeat) {element other : Node} : Alike element other →
      Alike (.repetition element bounds) (.repetition other bounds)

namespace Node

/-! ## Canonical trees -/

mutual

/-- The tree with a group directly inside all brackets, and with all codes of one casing. -/
def canonical : Node → Node
  | .rule name definition => .rule name definition.canonical
  | .literal casing text none => .literal casing text none
  | .literal _ text (some base) => .literal .sensitive text (some base)
  | .range first last base => .range first last base
  | .prose text => .prose text
  | .reference name => .reference name
  | .concatenation elements => .concatenation (canonicalAll elements)
  | .alternation choices => .alternation (canonicalAll choices)
  | .group inner => .group inner.canonical
  | .repetition element bounds =>
    .repetition (if bounds.isOptional then .group element.canonical.unwrapped
      else element.canonical) bounds

/-- The canonical trees of several trees. -/
def canonicalAll : List Node → List Node
  | [] => []
  | node :: rest => node.canonical :: canonicalAll rest

end

lemma canonicalAll_eq_map (nodes : List Node) : canonicalAll nodes = nodes.map canonical := by
  induction nodes with
  | nil => rfl
  | cons node rest ih => rw [canonicalAll, List.map_cons, ih]

lemma isGroup_canonical (node : Node) : node.canonical.isGroup = node.isGroup := by
  cases node with
  | literal casing text base => cases base <;> rfl
  | _ => rfl

lemma canonical_unwrapped (node : Node) : node.canonical.unwrapped = node.unwrapped.canonical := by
  cases hgroup : node.isGroup with
  | true =>
    obtain ⟨inner, rfl⟩ := exists_eq_group hgroup
    rfl
  | false => rw [unwrapped_eq_self hgroup, unwrapped_eq_self (node.isGroup_canonical.trans hgroup)]

lemma canonical_optional (element : Node) :
    canonical (.repetition element ⟨0, some 1⟩) =
      .repetition (.group element.unwrapped.canonical) ⟨0, some 1⟩ := by
  have hbounds : (Repeat.mk 0 (some 1)).isOptional = true := rfl
  rw [canonical, if_pos hbounds, canonical_unwrapped]

end Node

/-- Where one tree of a list can be exchanged for a related one, so can all trees of the list. -/
lemma Node.related_of_forall₂ {R : Node → Node → Prop} (hrefl : ∀ node, R node node)
    (htrans : ∀ {node other third}, R node other → R other third → R node third)
    {make : List Node → Node}
    (hmake : ∀ (before after : List Node) {node other : Node}, R node other →
      R (make (before ++ node :: after)) (make (before ++ other :: after)))
    {nodes others : List Node} (h : List.Forall₂ R nodes others) (before : List Node) :
    R (make (before ++ nodes)) (make (before ++ others)) := by
  induction h generalizing before with
  | nil => exact hrefl _
  | @cons node other rest others hnode _ ih =>
    -- The place in front is changed first, and then counts as one of those before.
    have hrest := ih (before ++ [other])
    rw [List.append_assoc, List.append_assoc] at hrest
    exact htrans (hmake before rest hnode) hrest

namespace Alike

/-- Trees that are like their canonical trees everywhere in a list are so as lists. -/
lemma of_forall {make : List Node → Node}
    (hmake : ∀ (before after : List Node) {node other : Node}, Alike node other →
      Alike (make (before ++ node :: after)) (make (before ++ other :: after)))
    {nodes : List Node} (h : ∀ node ∈ nodes, Alike node node.canonical) :
    Alike (make nodes) (make (nodes.map Node.canonical)) := by
  have hall : List.Forall₂ Alike nodes (nodes.map Node.canonical) := by
    rw [List.forall₂_map_right_iff, List.forall₂_same]
    exact h
  exact Node.related_of_forall₂ refl trans hmake hall []

/-- Every tree is like its canonical tree. -/
lemma canonical (node : Node) : Alike node node.canonical := by
  induction node with
  | rule name definition ih => exact ih.rule name
  | literal casing text base =>
    cases base with
    | none => exact .refl _
    | some base => exact .coded _ _ _ _
  | range first last base => exact .refl _
  | prose text => exact .refl _
  | reference name => exact .refl _
  | concatenation elements ih =>
    rw [Node.canonical, Node.canonicalAll_eq_map]
    exact of_forall concatenation ih
  | alternation choices ih =>
    rw [Node.canonical, Node.canonicalAll_eq_map]
    exact of_forall alternation ih
  | group inner ih => exact ih.group
  | repetition element bounds ih _ =>
    by_cases hoptional : bounds.isOptional = true
    · obtain rfl := bounds.isOptional_iff.1 hoptional
      rw [Node.canonical_optional]
      cases hgroup : element.isGroup with
      | true =>
        obtain ⟨inner, rfl⟩ := Node.exists_eq_group hgroup
        exact ih.repetition _
      | false =>
        -- Without a group in the brackets, the canonical tree has one that is added here.
        rw [Node.unwrapped_eq_self hgroup]
        have hadd := Alike.optional (element.isGroup_canonical.trans hgroup)
        exact (ih.repetition _).trans hadd.symm
    · rw [Node.canonical, if_neg hoptional]
      exact ih.repetition _

/-- Trees that are alike have the same canonical tree. -/
lemma canonical_eq {node other : Node} (h : Alike node other) :
    node.canonical = other.canonical := by
  induction h with
  | @optional inner hgroup =>
    rw [Node.canonical_optional, Node.canonical_optional, Node.unwrapped_group,
      Node.unwrapped_eq_self hgroup]
  | coded => rfl
  | refl => rfl
  | symm _ ih => exact ih.symm
  | trans _ _ ih ih' => exact ih.trans ih'
  | rule name _ ih => rw [Node.canonical, Node.canonical, ih]
  | concatenation before after _ ih => simp [Node.canonical, Node.canonicalAll_eq_map, ih]
  | alternation before after _ ih => simp [Node.canonical, Node.canonicalAll_eq_map, ih]
  | group _ ih => rw [Node.canonical, Node.canonical, ih]
  | repetition bounds _ ih => rw [Node.canonical, Node.canonical, ih]

end Alike

/-- Trees are alike exactly when they have the same canonical tree. -/
theorem alike_iff {node other : Node} : Alike node other ↔ node.canonical = other.canonical := by
  constructor
  · exact Alike.canonical_eq
  · intro h
    have hother := (Alike.canonical other).symm
    rw [← h] at hother
    exact (Alike.canonical node).trans hother

end Abnf
