import Abnf.Proofs.Faults
import Abnf.Proofs.Outcome
import Abnf.Proofs.RoundTrip

/-!
# How deep a grammar from a text is

Each node around another one takes a level of the value of the tree, and the depth at which a
compiler visits a node counts the nodes around it at most (`depth_le`).  A text has at most 127
lists and objects inside each other, of which the grammar, its definitions and the rule itself take
three.  So no compiler goes deeper than 124 in a grammar from a text, and a limit of this size, such
as the default, is never what keeps it from being rendered (`never_tooDeep`).
-/

namespace Abnf

open Json (Value)
open Json.Value (nesting nestingItems_le nestingMembers_le)

/-! ## The nesting of a value and the depth of a visit -/

namespace Node

lemma nesting_lt_of_mem {node : Node} {m : String × Value} (h : m ∈ node.members) :
    m.2.nesting < node.toValue.nesting := by
  rw [toValue_eq, nesting]
  exact Nat.lt_succ_of_le (nestingMembers_le.1 (Nat.le_refl _) m (List.mem_cons_of_mem _ h))

lemma nesting_lt_arr {nodes : List Node} {node : Node} (h : node ∈ nodes) :
    node.toValue.nesting < (Value.arr (nodes.map toValue)).nesting := by
  rw [nesting]
  exact Nat.lt_succ_of_le
    (nestingItems_le.1 (Nat.le_refl _) node.toValue (List.mem_map_of_mem h))

/-- A node nests deeper than the nodes directly below it. -/
lemma nesting_child {node child : Node} (h : child ∈ node.children) :
    child.toValue.nesting < node.toValue.nesting := by
  cases node with
  | rule name definition =>
    obtain rfl := List.mem_singleton.1 h
    have hmember : ("def", child.toValue) ∈ (Node.rule name child).members := by simp [members]
    exact nesting_lt_of_mem hmember
  | concatenation elements =>
    have hmember : ("elements", .arr (elements.map toValue)) ∈
        (Node.concatenation elements).members := by simp [members]
    exact Nat.lt_trans (nesting_lt_arr h) (nesting_lt_of_mem hmember)
  | alternation choices =>
    have hmember : ("alts", .arr (choices.map toValue)) ∈ (Node.alternation choices).members := by
      simp [members]
    exact Nat.lt_trans (nesting_lt_arr h) (nesting_lt_of_mem hmember)
  | group inner =>
    obtain rfl := List.mem_singleton.1 h
    have hmember : ("alt", child.toValue) ∈ (Node.group child).members := by simp [members]
    exact nesting_lt_of_mem hmember
  | repetition element bounds =>
    obtain rfl := List.mem_singleton.1 h
    have hmember : ("el", child.toValue) ∈ (Node.repetition child bounds).members := by
      simp [members]
    exact nesting_lt_of_mem hmember
  | literal _ _ _ => exact absurd h List.not_mem_nil
  | range _ _ _ => exact absurd h List.not_mem_nil
  | prose _ => exact absurd h List.not_mem_nil
  | reference _ => exact absurd h List.not_mem_nil

lemma nesting_unwrapped_le (node : Node) :
    node.unwrapped.toValue.nesting ≤ node.toValue.nesting := by
  cases node with
  | group inner => exact Nat.le_of_lt (nesting_child (List.mem_singleton_self inner))
  | _ => exact Nat.le_refl _

/-- A node whose value nests enough for all visits below it. -/
lemma depth_le_of_below {skips : Repeat → Bool} {depth : Nat} {node : Node}
    {below : List (Nat × Node)} (hvisits : node.visits skips depth = (depth + 1, node) :: below)
    (hbelow : ∀ visit ∈ below, ∃ child : Node, child.toValue.nesting < node.toValue.nesting ∧
      visit.1 ≤ depth + 1 + child.toValue.nesting) :
    ∀ visit ∈ node.visits skips depth, visit.1 ≤ depth + node.toValue.nesting := by
  rw [hvisits]
  refine List.forall_mem_cons.2 ⟨?_, fun visit hvisit => ?_⟩
  · rw [toValue_eq, nesting]
    omega
  · obtain ⟨child, hchild, hdepth⟩ := hbelow visit hvisit
    omega

/-- No node is visited deeper than the value of the tree nests. -/
theorem depth_le (skips : Repeat → Bool) (node : Node) (depth : Nat) :
    ∀ visit ∈ node.visits skips depth, visit.1 ≤ depth + node.toValue.nesting := by
  induction node generalizing depth with
  | rule name definition ih =>
    refine depth_le_of_below rfl fun visit hvisit => ?_
    exact ⟨definition, nesting_child (List.mem_singleton_self _), ih _ visit hvisit⟩
  | literal casing text base => exact depth_le_of_below rfl (by simp)
  | range first last base => exact depth_le_of_below rfl (by simp)
  | prose text => exact depth_le_of_below rfl (by simp)
  | reference name => exact depth_le_of_below rfl (by simp)
  | concatenation elements ih =>
    refine depth_le_of_below rfl fun visit hvisit => ?_
    obtain ⟨element, helement, hbelow⟩ := mem_visitsAll hvisit
    exact ⟨element, nesting_child helement, ih element helement _ visit hbelow⟩
  | alternation choices ih =>
    refine depth_le_of_below rfl fun visit hvisit => ?_
    obtain ⟨choice, hchoice, hbelow⟩ := mem_visitsAll hvisit
    exact ⟨choice, nesting_child hchoice, ih choice hchoice _ visit hbelow⟩
  | group inner ih =>
    refine depth_le_of_below rfl fun visit hvisit => ?_
    exact ⟨inner, nesting_child (List.mem_singleton_self _), ih _ visit hvisit⟩
  | repetition element bounds ih ihu =>
    have hchild : element.toValue.nesting < (Node.repetition element bounds).toValue.nesting :=
      nesting_child (List.mem_singleton_self _)
    refine depth_le_of_below (visits_repetition skips depth element bounds) fun visit hvisit => ?_
    -- A group that is passed over takes a level of the value and none of the visits.
    split at hvisit
    · have hunwrapped := element.nesting_unwrapped_le
      exact ⟨element.unwrapped, by omega, ihu _ visit hvisit⟩
    · exact ⟨element, hchild, ih _ visit hvisit⟩

end Node

/-! ## Grammars from texts -/

namespace Grammar

variable {text : String} {g : Grammar}

lemma mem_nodes_of_get? {name : String} {node : Node} (h : g.get? name = some node) :
    node ∈ g.nodes := by
  obtain ⟨entry, hentry, rfl⟩ := Option.map_eq_some_iff.1 h
  exact List.mem_map_of_mem (List.mem_of_find?_eq_some hentry)

/-- The definitions of a grammar from a text stand two levels below the top. -/
lemma nesting_of_mem_nodes (h : Grammar.ofText text = .ok g) {node : Node}
    (hnode : node ∈ g.nodes) : node.toValue.nesting ≤ 125 := by
  obtain ⟨entry, hentry, rfl⟩ := List.mem_map.1 hnode
  have hgrammar := nesting_of_ofText h
  rw [toValue, nesting, Nat.succ_lt_succ_iff, Nat.lt_succ_iff] at hgrammar
  have hdefinitions := nestingMembers_le.1 hgrammar _ List.mem_cons_self
  rw [nesting, Nat.succ_le_succ_iff] at hdefinitions
  exact nestingMembers_le.1 hdefinitions _ (List.mem_map_of_mem hentry)

/-- No node of a grammar from a text is visited below depth 124. -/
lemma depth_of_mem_nodes (h : Grammar.ofText text = .ok g) {name : String} {definition : Node}
    (hrule : .rule name definition ∈ g.nodes) (skips : Repeat → Bool) :
    ∀ visit ∈ definition.visits skips 0, visit.1 ≤ 124 := by
  intro visit hvisit
  have hdepth := definition.depth_le skips 0 visit hvisit
  have hbelow : definition.toValue.nesting < (Node.rule name definition).toValue.nesting :=
    Node.nesting_child (List.mem_singleton_self _)
  have hnode := nesting_of_mem_nodes h hrule
  omega

/-- A definition of a grammar from a text is not too deep for a limit of 124. -/
lemma ruleFault_ne_tooDeep (h : Grammar.ofText text = .ok g) {limit : Nat} (hlimit : 124 ≤ limit)
    {node : Node} (hnode : node ∈ g.nodes) (rule : String) (most : Nat) :
    node.ruleFault limit ≠ some (.tooDeep rule most) := by
  intro hfault
  rcases Node.ruleFault_cases hfault with ⟨name, definition, rfl, -, visit, hvisit, hdeep⟩ |
    ⟨_, _, _, heq⟩
  · have hdepth := depth_of_mem_nodes h hnode _ visit hvisit
    omega
  · simp at heq

/-- **A grammar from a text is never too deep.**  With a greatest depth of 124 or more, no rule of a
grammar that has been read is too deep to be written or to be drawn, whatever the dependencies, the
markup and the anchors are; and neither a rendering of the grammar nor that of one of its rules
fails because of the depth. -/
theorem never_tooDeep (h : Grammar.ofText text = .ok g) (rule : String) (most : Nat) :
    (∀ listing : Listing, 124 ≤ listing.maxDepth → ∀ node ∈ g.nodes,
      listing.rule node ≠ .error (.tooDeep rule most)) ∧
    (∀ drawing : Drawing, 124 ≤ drawing.maxDepth → ∀ node ∈ g.nodes,
      drawing.rule node ≠ .error (.tooDeep rule most)) ∧
    ∀ (d : Dependencies) (options : Options) (markup : Markup), 124 ≤ options.maxDepth →
      (Renderer.mk g d options).all markup ≠ .error (.tooDeep rule most) ∧
      ∀ name, (Renderer.mk g d options).rule name markup ≠ .error (.tooDeep rule most) := by
  refine ⟨?_, ?_, ?_⟩
  · intro listing hlimit node hnode herror
    have hfault := listing.rule_failure node
    rw [failure_eq_some_iff.2 herror] at hfault
    exact ruleFault_ne_tooDeep h hlimit hnode rule most hfault.symm
  · intro drawing hlimit node hnode herror
    cases node with
    | rule name definition =>
      have hfault := drawing.rule_failure name definition
      rw [failure_eq_some_iff.2 herror] at hfault
      obtain ⟨-, visit, hvisit, hdeep⟩ := Node.exists_of_tooDeep hfault.symm
      have hdepth := depth_of_mem_nodes h hnode _ visit hvisit
      omega
    | _ => simp [Drawing.rule, Descent.expectedRule, Descent.malformed] at herror
  · intro d options markup hlimit
    constructor
    · intro herror
      have hfault := (Renderer.mk g d options).selected_failure none markup
      have hselected : (Renderer.mk g d options).selected none markup =
          .error (.tooDeep rule most) := herror
      rw [failure_eq_some_iff.2 hselected] at hfault
      obtain ⟨node, hnode, hnodeFault⟩ := List.exists_of_findSome?_eq_some hfault.symm
      exact ruleFault_ne_tooDeep h hlimit hnode rule most hnodeFault
    · intro name herror
      rw [Renderer.rule] at herror
      cases hget : g.get? name with
      | none => simp [hget] at herror
      | some node =>
        rw [hget] at herror
        have hfault := (Renderer.mk g d options).node_failure markup node
        rw [failure_eq_some_iff.2 herror] at hfault
        exact ruleFault_ne_tooDeep h hlimit (mem_nodes_of_get? hget) rule most hfault.symm

/-- A reference in groups inside each other. -/
def grouped : Nat → Node
  | 0 => .reference "a"
  | n + 1 => .group (grouped n)

/-- A rule with as many groups inside each other as there can be in a text. -/
def deepest : Grammar :=
  ⟨⟨[("a", .rule "a" (grouped 123))], by decide⟩, []⟩

/-- The deepest rule can be read, and is not too deep for the default limit and for a limit of 124,
but for one of 123 it is. -/
theorem never_tooDeep_deepest :
    Grammar.ofText deepest.toValue.compact = .ok deepest ∧
    (∀ rule most markup,
      (Renderer.mk deepest .none {}).all markup ≠ .error (.tooDeep rule most) ∧
      (Renderer.mk deepest .none { maxDepth := 124 }).rule "A" markup ≠
        .error (.tooDeep rule most)) ∧
    (Renderer.mk deepest .none { maxDepth := 123 }).all .plain = .error (.tooDeep "a" 123) := by
  have hnesting : deepest.toValue.nesting < 128 := by decide +kernel
  have hread := ofText_compact hnesting
  refine ⟨hread, fun rule most markup => ?_, ?_⟩
  · have hdefault := never_tooDeep hread rule most
    exact ⟨(hdefault.2.2 .none {} markup (by decide)).1,
      (hdefault.2.2 .none { maxDepth := 124 } markup (by decide)).2 "A"⟩
  · exact failure_eq_some_iff.1
      (((Renderer.mk deepest .none { maxDepth := 123 }).selected_failure none .plain).trans
        (by decide))

end Grammar

end Abnf
