import Abnf.Node.References
import Abnf.Proofs.Visits

/-!
# The trees below a tree

`subtrees` lists a tree and all trees below it, each before those below it and from left to right.
The names that a tree refers to are the names of the references in this list, in its order
(`references_eq`), and the walk with a stack of its own collects the same names
(`referencedNames_eq`).  Both compilers visit every tree of the list but for some groups
(`exists_visit`), so that nothing is wrong with any node of what has been written
(`fault_eq_none_of_list`).
-/

namespace Abnf.Node

mutual

/-- A tree and the trees below it, each before those below it and from left to right. -/
def subtrees (node : Node) : List Node :=
  node ::
    match node with
    | .rule _ definition => subtrees definition
    | .concatenation elements => subtreesAll elements
    | .alternation choices => subtreesAll choices
    | .group inner => subtrees inner
    | .repetition element _ => subtrees element
    | .literal _ _ _ | .range _ _ _ | .prose _ | .reference _ => []

/-- Several trees with the trees below them. -/
def subtreesAll : List Node → List Node
  | [] => []
  | node :: rest => subtrees node ++ subtreesAll rest

end

lemma subtreesAll_eq_flatMap (nodes : List Node) : subtreesAll nodes = nodes.flatMap subtrees := by
  induction nodes with
  | nil => rfl
  | cons node rest ih => rw [subtreesAll, List.flatMap_cons, ih]

lemma subtrees_eq (node : Node) : node.subtrees = node :: node.children.flatMap subtrees := by
  cases node <;> simp [subtrees, children, subtreesAll_eq_flatMap]

lemma self_mem_subtrees (node : Node) : node ∈ node.subtrees := by
  rw [subtrees_eq]
  exact List.mem_cons_self

lemma mem_subtrees_of_child {node child tree : Node} (hchild : child ∈ node.children)
    (htree : tree ∈ child.subtrees) : tree ∈ node.subtrees := by
  rw [subtrees_eq]
  exact List.mem_cons_of_mem _ (List.mem_flatMap.2 ⟨child, hchild, htree⟩)

lemma mem_subtrees_of_unwrapped {node tree : Node} (h : tree ∈ node.unwrapped.subtrees) :
    tree ∈ node.subtrees := by
  cases node with
  | group inner => exact mem_subtrees_of_child (by simp [children]) h
  | _ => exact h

lemma mem_unwrapped_subtrees {node tree : Node} (htree : tree.isGroup = false)
    (h : tree ∈ node.subtrees) : tree ∈ node.unwrapped.subtrees := by
  cases node with
  | group inner =>
    rcases List.mem_cons.1 h with rfl | hinner
    · simp [isGroup] at htree
    · exact hinner
  | _ => exact h

/-! ## References -/

/-- The name that a node refers to, if it is a reference. -/
def target? : Node → Option String
  | .reference name => some name
  | _ => none

lemma referencesAll_eq_flatMap (nodes : List Node) :
    referencesAll nodes = nodes.flatMap references := by
  induction nodes with
  | nil => rfl
  | cons node rest ih => rw [referencesAll, List.flatMap_cons, ih]

lemma references_of_children {node : Node} (h : node.target? = none) :
    node.references = referencesAll node.children := by
  cases node <;> simp_all [references, referencesAll, children, target?]

/-- The references of a tree are those among the trees below it. -/
theorem references_eq (node : Node) : node.references = node.subtrees.filterMap target? := by
  have hall : ∀ nodes : List Node, (∀ node ∈ nodes,
      node.references = node.subtrees.filterMap target?) →
      referencesAll nodes = (nodes.flatMap subtrees).filterMap target? := by
    intro nodes ih
    rw [referencesAll_eq_flatMap, List.filterMap_flatMap]
    exact List.flatMap_congr ih
  induction node with
  | rule name definition ih =>
    rw [references, ih, subtrees]
    rfl
  | literal casing text base => rfl
  | range first last base => rfl
  | prose text => rfl
  | reference name => rfl
  | concatenation elements ih =>
    rw [references, subtrees, subtreesAll_eq_flatMap]
    exact hall elements ih
  | alternation choices ih =>
    rw [references, subtrees, subtreesAll_eq_flatMap]
    exact hall choices ih
  | group inner ih =>
    rw [references, ih, subtrees]
    rfl
  | repetition element bounds ih _ =>
    rw [references, ih, subtrees]
    rfl

/-- A walk collects the references of the trees on its stack, from the top of the stack on. -/
lemma walk_eq (found : List String) (stack : List Node) :
    walk found stack = found.reverse ++ referencesAll stack := by
  induction found, stack using walk.induct with
  | case1 found => simp [walk, referencesAll]
  | case2 found stack name ih => simp [walk, ih, referencesAll, references]
  | case3 found stack node hnode ih =>
    have hnone : node.target? = none := by
      cases node with
      | reference name => exact absurd rfl (hnode name)
      | _ => rfl
    rw [walk, ih, referencesAll, references_of_children hnone]
    · simp [referencesAll_eq_flatMap]
    · exact hnode

/-- The walk gives the references of a tree. -/
theorem referencedNames_eq (node : Node) : node.referencedNames = node.references := by
  simp [referencedNames, walk_eq, referencesAll]

lemma mem_references {node : Node} {name : String} :
    name ∈ node.references ↔ .reference name ∈ node.subtrees := by
  rw [references_eq, List.mem_filterMap]
  constructor
  · rintro ⟨tree, htree, hname⟩
    cases tree with
    | reference other =>
      obtain rfl : other = name := Option.some.inj hname
      exact htree
    | _ => simp [target?] at hname
  · intro htree
    exact ⟨_, htree, rfl⟩

/-! ## Visits -/

lemma self_mem_visits (skips : Repeat → Bool) (depth : Nat) (node : Node) :
    (depth + 1, node) ∈ visits skips depth node := by
  cases node with
  | repetition element bounds =>
    rw [visits_repetition]
    exact List.mem_cons_self
  | _ => exact List.mem_cons_self

lemma exists_visit_of_mem_subtreesAll {skips : Repeat → Bool} {tree : Node} {nodes : List Node}
    (ih : ∀ node ∈ nodes, tree ∈ node.subtrees →
      ∀ depth, ∃ depth', (depth', tree) ∈ visits skips depth node)
    (h : tree ∈ subtreesAll nodes) (depth : Nat) :
    ∃ depth', (depth', tree) ∈ visitsAll skips depth nodes := by
  induction nodes with
  | nil => exact absurd h List.not_mem_nil
  | cons node rest ihr =>
    rcases List.mem_append.1 h with hnode | hrest
    · obtain ⟨depth', hvisit⟩ := ih node (by simp) hnode depth
      exact ⟨depth', List.mem_append_left _ hvisit⟩
    · obtain ⟨depth', hvisit⟩ := ihr (fun other ho => ih other (by simp [ho])) hrest
      exact ⟨depth', List.mem_append_right _ hvisit⟩

/-- Every tree below a tree is visited, unless it is a group. -/
theorem exists_visit (skips : Repeat → Bool) {tree : Node} (htree : tree.isGroup = false)
    {node : Node} (h : tree ∈ node.subtrees) (depth : Nat) :
    ∃ depth', (depth', tree) ∈ visits skips depth node := by
  induction node generalizing depth with
  | rule name definition ih =>
    rcases List.mem_cons.1 h with rfl | hbelow
    · exact ⟨_, self_mem_visits skips depth _⟩
    · obtain ⟨depth', hvisit⟩ := ih hbelow (depth + 1)
      exact ⟨depth', List.mem_cons_of_mem _ hvisit⟩
  | concatenation elements ih =>
    rcases List.mem_cons.1 h with rfl | hbelow
    · exact ⟨_, self_mem_visits skips depth _⟩
    · obtain ⟨depth', hvisit⟩ := exists_visit_of_mem_subtreesAll ih hbelow (depth + 1)
      exact ⟨depth', List.mem_cons_of_mem _ hvisit⟩
  | alternation choices ih =>
    rcases List.mem_cons.1 h with rfl | hbelow
    · exact ⟨_, self_mem_visits skips depth _⟩
    · obtain ⟨depth', hvisit⟩ := exists_visit_of_mem_subtreesAll ih hbelow (depth + 1)
      exact ⟨depth', List.mem_cons_of_mem _ hvisit⟩
  | group inner ih =>
    rcases List.mem_cons.1 h with rfl | hbelow
    · exact ⟨_, self_mem_visits skips depth _⟩
    · obtain ⟨depth', hvisit⟩ := ih hbelow (depth + 1)
      exact ⟨depth', List.mem_cons_of_mem _ hvisit⟩
  | repetition element bounds ih ihu =>
    rcases List.mem_cons.1 h with rfl | hbelow
    · exact ⟨_, self_mem_visits skips depth _⟩
    · obtain ⟨depth', hvisit⟩ : ∃ depth', (depth', tree) ∈
          visits skips (depth + 1) (if skips bounds then element.unwrapped else element) := by
        split
        · exact ihu (mem_unwrapped_subtrees htree hbelow) (depth + 1)
        · exact ih hbelow (depth + 1)
      rw [visits_repetition]
      exact ⟨depth', List.mem_cons_of_mem _ hvisit⟩
  | _ =>
    obtain rfl := List.mem_singleton.1 h
    exact ⟨_, self_mem_visits skips depth _⟩

/-- Nothing is wrong with any node of what has been written. -/
theorem fault_eq_none_of_list {markup : Markup} {anchor : String → String} {d : Descent}
    {node tree : Node} {text : String} (hlist : node.list markup anchor d = .ok text)
    (h : tree ∈ node.subtrees) : tree.fault d.rule = none := by
  cases hgroup : tree.isGroup with
  | true =>
    obtain ⟨inner, rfl⟩ := exists_eq_group hgroup
    rfl
  | false =>
    have hnone : failure (node.list markup anchor d) = none := failure_eq_none_iff.2 ⟨text, hlist⟩
    rw [list_failure, List.findSome?_eq_none_iff] at hnone
    obtain ⟨depth, hvisit⟩ := exists_visit Repeat.isOptional hgroup h d.depth
    have hfault := hnone _ hvisit
    rw [faultAt] at hfault
    split at hfault
    · simp at hfault
    · exact hfault

/-! ## Groups below repetitions -/

/-- Wherever a group is repeated in a tree, both rules pass over it or neither does. -/
def AgreeOn (skips skips' : Repeat → Bool) (node : Node) : Prop :=
  ∀ inner bounds, .repetition (.group inner) bounds ∈ node.subtrees → skips bounds = skips' bounds

lemma AgreeOn.child {skips skips' : Repeat → Bool} {node child : Node}
    (h : AgreeOn skips skips' node) (hchild : child ∈ node.children) :
    AgreeOn skips skips' child :=
  fun inner bounds hmem => h inner bounds (mem_subtrees_of_child hchild hmem)

lemma AgreeOn.unwrapped {skips skips' : Repeat → Bool} {node : Node}
    (h : AgreeOn skips skips' node) : AgreeOn skips skips' node.unwrapped :=
  fun inner bounds hmem => h inner bounds (mem_subtrees_of_unwrapped hmem)

lemma visitsAll_congr {skips skips' : Repeat → Bool} {nodes : List Node} {depth : Nat}
    (h : ∀ node ∈ nodes, visits skips depth node = visits skips' depth node) :
    visitsAll skips depth nodes = visitsAll skips' depth nodes := by
  induction nodes with
  | nil => rfl
  | cons node rest ih =>
    rw [visitsAll, visitsAll, h node (by simp), ih fun other ho => h other (by simp [ho])]

/-- The visits are the same where the same groups are passed over. -/
theorem visits_congr {skips skips' : Repeat → Bool} {node : Node}
    (h : AgreeOn skips skips' node) (depth : Nat) :
    visits skips depth node = visits skips' depth node := by
  induction node generalizing depth with
  | rule name definition ih =>
    rw [visits, visits, ih (h.child (by simp [children]))]
  | concatenation elements ih =>
    rw [visits, visits, visitsAll_congr fun element he => ih element he (h.child he) _]
  | alternation choices ih =>
    rw [visits, visits, visitsAll_congr fun choice hc => ih choice hc (h.child hc) _]
  | group inner ih =>
    rw [visits, visits, ih (h.child (by simp [children]))]
  | repetition element bounds ih ihu =>
    have helement : AgreeOn skips skips' element := h.child (by simp [children])
    rw [visits_repetition, visits_repetition]
    cases hgroup : element.isGroup with
    | true =>
      obtain ⟨inner, rfl⟩ := exists_eq_group hgroup
      rw [h inner bounds (self_mem_subtrees _)]
      split
      · rw [ihu helement.unwrapped]
      · rw [ih helement]
    | false => rw [unwrapped_eq_self hgroup, ite_self, ite_self, ih helement]
  | _ => rfl

end Abnf.Node
