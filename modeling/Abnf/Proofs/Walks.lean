import Abnf.Grammar.Basic
import Abnf.Proofs.Subtrees

/-!
# A walk, round by round

The walk that collects references does not call itself.  It keeps a stack of the nodes to visit; in
each round it takes the node on top, notes the name if that is a reference, and otherwise puts the
nodes below it on the stack, the last one first.

Two quantities tell what comes of this.  The names found, followed by those of the nodes on the
stack from its top on, are the same after each round (`names_of_round`).  The nodes still to come,
which are those on the stack and all below them, are one fewer after each round (`size_of_round`),
although the stack itself may have grown.  So the walk ends, after as many rounds as there are nodes
(`ends_iff`), and has found the names from left to right.
-/

namespace Abnf

/-- A walk under way. -/
structure Walk where
  /-- The names found so far, in the order in which they were found. -/
  found : List String
  /-- The nodes to visit: a stack, with its top at the end. -/
  stack : List Node

namespace Walk

/-- The walk that begins at a node. -/
def start (node : Node) : Walk := ⟨[], [node]⟩

/-- What becomes of a walk by a visit to a node, which has been taken off the stack. -/
def visit (walk : Walk) : Node → Walk
  | .reference name => { walk with found := walk.found ++ [name] }
  | node => { walk with stack := walk.stack ++ node.children.reverse }

/-- One round of a walk, if there is a node left to visit. -/
def round? (walk : Walk) : Option Walk :=
  walk.stack.getLast?.map fun node => visit { walk with stack := walk.stack.dropLast } node

/-- `walk.Ends n last`: after `n` rounds no node is left to visit, and `walk` has become `last`. -/
inductive Ends : Walk → Nat → Walk → Prop
  | done {walk : Walk} : walk.round? = none → Ends walk 0 walk
  | round {walk next last : Walk} {n : Nat} :
      walk.round? = some next → Ends next n last → Ends walk (n + 1) last

/-- The names found, followed by those that the nodes on the stack refer to, from its top on. -/
def names (walk : Walk) : List String := walk.found ++ Node.referencesAll walk.stack.reverse

/-- The number of the nodes still to come: those on the stack and all below them. -/
def size (walk : Walk) : Nat := Node.countAll walk.stack.reverse

variable {walk next last other : Walk} {m n : Nat}

/-! ## One round -/

/-- A visit gives the name of a reference, and puts on the stack what is below the node. -/
lemma visit_eq (walk : Walk) (node : Node) :
    walk.visit node =
      ⟨walk.found ++ node.target?.toList, walk.stack ++ node.children.reverse⟩ := by
  cases node <;> simp [visit, Node.target?, Node.children]

lemma round?_eq_none_iff : walk.round? = none ↔ walk.stack = [] := by
  simp [round?]

lemma round?_eq_some (h : walk.round? = some next) :
    ∃ stack node, walk.stack = stack ++ [node] ∧ next = visit ⟨walk.found, stack⟩ node := by
  obtain ⟨node, htop, rfl⟩ := Option.map_eq_some_iff.1 h
  obtain ⟨stack, hstack⟩ := List.getLast?_eq_some_iff.1 htop
  refine ⟨stack, node, hstack, ?_⟩
  rw [hstack, List.dropLast_concat]

/-- No name is lost, added or moved in a round. -/
lemma names_of_round (h : walk.round? = some next) : next.names = walk.names := by
  obtain ⟨stack, node, hstack, rfl⟩ := round?_eq_some h
  have hnode : node.references = node.target?.toList ++ Node.referencesAll node.children := by
    cases node <;> simp [Node.references, Node.referencesAll, Node.target?, Node.children]
  -- The nodes below the visited one are now on top, in reverse, so that the first is taken first.
  rw [names, names, visit_eq, hstack]
  simp only [List.reverse_append, List.reverse_reverse, List.reverse_singleton,
    Node.referencesAll_eq_flatMap, List.flatMap_append, List.flatMap_singleton] at hnode ⊢
  rw [hnode, List.append_assoc, List.append_assoc]

/-- A round deals with one node. -/
lemma size_of_round (h : walk.round? = some next) : walk.size = next.size + 1 := by
  obtain ⟨stack, node, hstack, rfl⟩ := round?_eq_some h
  have hcount : node.count = Node.countAll node.children + 1 := node.count_eq
  rw [size, size, visit_eq, hstack]
  simp only [List.reverse_append, List.reverse_reverse, List.reverse_singleton,
    Node.countAll_append, Node.countAll]
  omega

/-! ## All rounds -/

/-- A walk ends in only one way. -/
lemma Ends.unique (h : walk.Ends m last) (h' : walk.Ends n other) : m = n ∧ last = other := by
  induction h generalizing n other with
  | done hnone =>
    cases h' with
    | done _ => exact ⟨rfl, rfl⟩
    | round hsome _ => simp [hnone] at hsome
  | round hsome _ ih =>
    cases h' with
    | done hnone => simp [hnone] at hsome
    | round hsome' h' =>
      obtain rfl := Option.some.inj (hsome.symm.trans hsome')
      obtain ⟨rfl, rfl⟩ := ih h'
      exact ⟨rfl, rfl⟩

/-- A walk ends when it has dealt with all nodes, and then it has found all names. -/
theorem ends (walk : Walk) : walk.Ends walk.size ⟨walk.names, []⟩ := by
  cases hround : walk.round? with
  | none =>
    obtain ⟨found, stack⟩ := walk
    obtain rfl : stack = [] := round?_eq_none_iff.1 hround
    simpa [size, names, Node.countAll, Node.referencesAll] using Ends.done hround
  | some next =>
    -- The rest of the walk has a node less to deal with, even if more of them are on its stack.
    have hsize : walk.size = next.size + 1 := size_of_round hround
    rw [hsize, ← names_of_round hround]
    exact .round hround (ends next)
termination_by walk.size

theorem ends_iff : walk.Ends n last ↔ n = walk.size ∧ last = ⟨walk.names, []⟩ := by
  constructor
  · exact fun h => h.unique walk.ends
  · rintro ⟨rfl, rfl⟩
    exact walk.ends

/-- What a walk gives from any point on is what its rounds find in the end. -/
lemma Ends.walk_eq (h : walk.Ends n last) :
    Node.walk walk.found.reverse walk.stack.reverse = last.found := by
  obtain ⟨-, rfl⟩ := ends_iff.1 h
  simp [Node.walk_eq, names]

lemma size_start (node : Node) : (start node).size = node.count := by
  simp [size, start, Node.countAll]

end Walk

/-- **The walk collects the references from left to right.**  Begun at any tree, it ends after as
many rounds as the tree has nodes, with nothing left on the stack, and what it has found are the
names that the tree refers to, as they are given by recursion on it.  If no references are listed,
those of a grammar are the names of its definitions in declared order. -/
theorem Grammar.referencedNames_preorder :
    (∀ (node : Node) (rounds : Nat) (last : Walk), (Walk.start node).Ends rounds last ↔
      rounds = node.count ∧ last.stack = [] ∧ last.found = node.referencedNames) ∧
    (∀ node : Node, node.referencedNames = node.references) ∧
    ∀ definitions : Dict Node, (Grammar.mk definitions []).referencedNames =
      definitions.entries.flatMap fun entry => entry.2.references := by
  refine ⟨fun node rounds last => ?_, Node.referencedNames_eq, fun definitions => ?_⟩
  · rw [← Walk.size_start]
    constructor
    · intro h
      obtain ⟨hrounds, hlast⟩ := Walk.ends_iff.1 h
      exact ⟨hrounds, by rw [hlast], h.walk_eq.symm⟩
    · rintro ⟨rfl, hstack, hfound⟩
      have h := (Walk.start node).ends
      have hwalk : node.referencedNames = (Walk.start node).names := h.walk_eq
      obtain ⟨found, stack⟩ := last
      obtain rfl : stack = [] := hstack
      obtain rfl : found = (Walk.start node).names := hfound.trans hwalk
      exact h
  · have hwalks : Node.referencedNames = Node.references := funext Node.referencedNames_eq
    rw [Grammar.referencedNames, List.isEmpty_nil, if_pos rfl, hwalks, Grammar.nodes, Dict.values,
      List.flatMap_map]

/-- A name that occurs twice is found twice. -/
example : (Node.concatenation [.group (.reference "b"), .alternation [.reference "a",
    .reference "b"]]).referencedNames = ["b", "a", "b"] := by
  rw [Node.referencedNames_eq]
  rfl

end Abnf
