import Abnf.Proofs.Delimited
import Abnf.Proofs.Shape
import Abnf.Proofs.Visits

/-!
# Plain text

What plain text makes of a definition is `written`, with an equation for every kind of node.  A rule
of the shape of ABNF has nothing wrong with it but possibly its depth, so that it is written if it
fits (`bare_rule`), and its canonical tree is written in the same way (`written_canonical`).
-/

namespace Abnf

namespace Node

/-- The plain text of a definition. -/
def written (node : Node) : List Char := (node.tokens (anchorIn none)).flatMap Token.content

lemma written_literal (casing : Casing) (text : String) (base : Option Base) :
    written (.literal casing text base) = (literalContent casing text base).toList := by
  simp [written, tokens, Element.around, Token.content]

lemma written_coded (casing : Casing) {text : String} (base : Base) (h : text ≠ "") :
    written (.literal casing text (some base)) = '%' :: base.letter :: base.codes text := by
  rw [written_literal, literalContent, base.toList_encodeText h]

lemma written_range (first last : UInt32) (base : Base) :
    written (.range first last base) = '%' :: base.letter :: base.bounds first last := by
  rw [← base.toList_encodeRange]
  simp [written, tokens, Element.around, Token.content]

lemma written_prose (text : String) :
    written (.prose text) = '<' :: text.toList ++ ['>'] := by
  simp [written, tokens, Element.around, Token.content]

lemma written_reference (name : String) : written (.reference name) = name.toList := by
  simp [written, tokens, Element.around, Token.content]

lemma content_intercalate (separator : String) (nodes : List Node) :
    ([Token.text separator].intercalate (tokensAll (anchorIn none) nodes)).flatMap Token.content =
      separator.toList.intercalate (nodes.map written) := by
  rw [Markup.flatMap_intercalate, tokensAll_eq_map, List.map_map]
  rfl

lemma written_concatenation (elements : List Node) :
    written (.concatenation elements) = [' '].intercalate (elements.map written) := by
  rw [written, tokens, Markup.flatMap_around, content_intercalate]
  simp [Token.content]

lemma written_alternation (choices : List Node) :
    written (.alternation choices) = [' ', '/', ' '].intercalate (choices.map written) := by
  rw [written, tokens, Markup.flatMap_around, content_intercalate]
  simp [Token.content]

lemma written_group (inner : Node) : written (.group inner) = '(' :: inner.written ++ [')'] := by
  rw [written, tokens, Markup.flatMap_around]
  simp [Token.content, written]

lemma written_optional (element : Node) :
    written (.repetition element ⟨0, some 1⟩) = '[' :: element.unwrapped.written ++ [']'] := by
  rw [written, tokens_repetition, Markup.flatMap_around]
  simp [Token.content, written, Repeat.isOptional]

lemma written_repetition (element : Node) {bounds : Repeat} (h : bounds.isOptional = false) :
    written (.repetition element bounds) = bounds.star.toList ++ element.written := by
  rw [written, tokens_repetition, Markup.flatMap_around]
  simp [Token.content, written, h]

/-- The canonical tree is written like the tree. -/
lemma written_canonical (node : Node) : node.canonical.written = node.written := by
  induction node with
  | rule name definition ih => rfl
  | literal casing text base => cases base <;> rfl
  | range first last base => rfl
  | prose text => rfl
  | reference name => rfl
  | concatenation elements ih =>
    have hparts : (elements.map canonical).map written = elements.map written := by
      rw [List.map_map]
      exact List.map_congr_left ih
    rw [canonical, written_concatenation, written_concatenation, canonicalAll_eq_map, hparts]
  | alternation choices ih =>
    have hparts : (choices.map canonical).map written = choices.map written := by
      rw [List.map_map]
      exact List.map_congr_left ih
    rw [canonical, written_alternation, written_alternation, canonicalAll_eq_map, hparts]
  | group inner ih => rw [canonical, written_group, written_group, ih]
  | repetition element bounds ih ihu =>
    cases hoptional : bounds.isOptional with
    | true =>
      obtain rfl := bounds.isOptional_iff.1 hoptional
      rw [canonical_optional, written_optional, written_optional, unwrapped_group, ihu]
    | false =>
      have hcanonical : canonical (.repetition element bounds) =
          .repetition element.canonical bounds := by simp [canonical, hoptional]
      rw [hcanonical, written_repetition _ hoptional, written_repetition _ hoptional, ih]

/-! ## The listing of a rule -/

/-- What stands inside a group is visited with the group. -/
lemma fault_unwrapped {element : Node} {rule : String}
    (h : ∀ depth, ∀ visit ∈ element.listed depth, visit.2.fault rule = none) (depth : Nat) :
    ∀ visit ∈ element.unwrapped.listed (depth + 1), visit.2.fault rule = none := by
  cases hgroup : element.isGroup with
  | true =>
    obtain ⟨inner, rfl⟩ := exists_eq_group hgroup
    exact fun visit hvisit => h depth visit (List.mem_cons_of_mem _ hvisit)
  | false =>
    rw [unwrapped_eq_self hgroup]
    exact h (depth + 1)

/-- Nothing is wrong with a definition of the shape of ABNF, unless it is too deep. -/
lemma fault_eq_none {level : Level} {node : Node} (h : Shaped level node) (rule : String)
    (depth : Nat) : ∀ visit ∈ node.listed depth, visit.2.fault rule = none := by
  induction h generalizing depth with
  | single _ ih => exact ih depth
  | alone _ ih => exact ih depth
  | once _ ih => exact ih depth
  | alternation _ _ ih =>
    rw [listed, visits]
    refine List.forall_mem_cons.2 ⟨rfl, ?_⟩
    intro visit hvisit
    obtain ⟨choice, hchoice, hbelow⟩ := mem_visitsAll hvisit
    exact ih choice hchoice _ visit hbelow
  | concatenation _ _ ih =>
    rw [listed, visits]
    refine List.forall_mem_cons.2 ⟨rfl, ?_⟩
    intro visit hvisit
    obtain ⟨element, helement, hbelow⟩ := mem_visitsAll hvisit
    exact ih element helement _ visit hbelow
  | @repetition element bounds _ ih =>
    -- The bounds may be those of brackets, below which a group is passed over.
    rw [listed, visits_repetition]
    refine List.forall_mem_cons.2 ⟨rfl, ?_⟩
    split
    · exact fault_unwrapped ih depth
    · exact ih (depth + 1)
  | group _ ih =>
    rw [listed, visits]
    exact List.forall_mem_cons.2 ⟨rfl, ih (depth + 1)⟩
  | @optional element _ ih =>
    have hbounds : (Repeat.mk 0 (some 1)).isOptional = true := rfl
    rw [listed, visits_repetition, if_pos hbounds]
    exact List.forall_mem_cons.2 ⟨rfl, fault_unwrapped ih depth⟩
  | coded hne => simp [visits, fault, hne]
  | reference _ => simp [visits, fault]
  | quoted _ => simp [visits, fault]
  | range => simp [visits, fault]
  | prose _ => simp [visits, fault]

/-- Whether the definition of a rule goes no deeper than a limit. -/
def Fits (limit : Nat) : Node → Prop
  | .rule _ definition => ∀ visit ∈ definition.listed 0, visit.1 ≤ limit
  | _ => False

end Node

namespace Listing

/-- A plain listing without dependencies. -/
def bare (limit : Nat) : Listing where
  dependencies := .none
  markup := .plain
  maxDepth := limit

/-- A rule with the shape of ABNF is written if it fits, as its name and its definition with an
equals sign in between. -/
lemma bare_rule {limit : Nat} {name : String} {definition : Node}
    (hshaped : Shaped .alternation definition) (hfits : (Node.rule name definition).Fits limit) :
    ∃ text, (bare limit).rule (.rule name definition) = .ok text ∧
      text.toList = name.toList ++ (' ' :: '=' :: ' ' :: definition.written) := by
  have hfailure : failure ((bare limit).rule (.rule name definition)) = none := by
    rw [rule_failure, Node.ruleFault, List.findSome?_eq_none_iff]
    intro visit hvisit
    have hdepth : ¬ limit < visit.1 := Nat.not_lt.2 (hfits visit hvisit)
    rw [Node.faultAt, bare, if_neg hdepth]
    exact Node.fault_eq_none hshaped name 0 visit hvisit
  obtain ⟨text, htext⟩ := failure_eq_none_iff.1 hfailure
  refine ⟨text, htext, ?_⟩
  have hnative : (bare limit).dependencies.provenance name = .native := by
    simp [bare, Dependencies.provenance, Dependencies.extensionSource?, Dependencies.importSource?,
      Dependencies.none]
  rw [rule_spelled _ (Markup.spells_plain .verbatim) htext, hnative]
  simp [ruleTokens, declarationTokens, Provenance.source?, Markup.flatMap_around, Token.content,
    Node.written, bare]

end Listing

end Abnf
