import Mathlib.Data.List.Forall2
import Mathlib.Tactic.Lemma
import Abnf.Diagram.Draw
import Abnf.Listing.Write

/-!
# Induction on definition trees

A definition tree holds lists of trees, and both compilers look through a group that stands
directly below a repetition.  The induction principle of this file hands out the hypothesis for
every tree of a list, and for what stands inside such a group.  With it come the equations of the
two compilers at a repetition, in terms of the element without its group.
-/

namespace Abnf.Node

/-- What stands inside a group; a node that is no group stands for itself. -/
def unwrapped : Node → Node
  | .group inner => inner
  | node => node

/-- Whether a node is a group. -/
def isGroup : Node → Bool
  | .group _ => true
  | _ => false

@[simp] lemma unwrapped_group (inner : Node) : (group inner).unwrapped = inner := rfl

lemma unwrapped_eq_self {node : Node} (h : node.isGroup = false) : node.unwrapped = node := by
  cases node <;> first | rfl | simp [isGroup] at h

lemma exists_eq_group {node : Node} (h : node.isGroup = true) : ∃ inner, node = group inner := by
  cases node with
  | group inner => exact ⟨inner, rfl⟩
  | _ => simp [isGroup] at h

lemma count_le_countAll {node : Node} {nodes : List Node} (h : node ∈ nodes) :
    node.count ≤ countAll nodes := by
  induction nodes with
  | nil => simp at h
  | cons first rest ih =>
    rcases List.mem_cons.1 h with rfl | h'
    · simp [countAll]
    · have := ih h'
      simp only [countAll]
      omega

lemma count_unwrapped_le (node : Node) : node.unwrapped.count ≤ node.count := by
  cases node <;> simp [unwrapped, count]

/-- To prove something of all trees, assume it for the trees directly below, and below a repetition
also for the element without its group. -/
@[elab_as_elim, induction_eliminator]
theorem induction {motive : Node → Prop}
    (rule : ∀ name definition, motive definition → motive (.rule name definition))
    (literal : ∀ casing text base, motive (.literal casing text base))
    (range : ∀ first last base, motive (.range first last base))
    (prose : ∀ text, motive (.prose text))
    (reference : ∀ name, motive (.reference name))
    (concatenation : ∀ elements, (∀ element ∈ elements, motive element) →
      motive (.concatenation elements))
    (alternation : ∀ choices, (∀ choice ∈ choices, motive choice) →
      motive (.alternation choices))
    (group : ∀ inner, motive inner → motive (.group inner))
    (repetition : ∀ element bounds, motive element → motive element.unwrapped →
      motive (.repetition element bounds))
    (node : Node) : motive node := by
  -- The group is passed over, so the measure is the number of nodes and not the structure.
  induction hn : node.count using Nat.strongRecOn generalizing node with
  | ind n ih =>
    have below : ∀ child : Node, child.count < n → motive child := fun child hlt =>
      ih child.count hlt child rfl
    subst hn
    cases node with
    | rule name definition => exact rule _ _ (below _ (by simp [count]))
    | literal casing text base => exact literal _ _ _
    | range first last base => exact range _ _ _
    | prose text => exact prose _
    | reference name => exact reference _
    | concatenation elements =>
      refine concatenation _ fun element he => below _ ?_
      have := count_le_countAll he
      simp only [count]
      omega
    | alternation choices =>
      refine alternation _ fun choice hc => below _ ?_
      have := count_le_countAll hc
      simp only [count]
      omega
    | group inner => exact group _ (below _ (by simp [count]))
    | repetition element bounds =>
      have := count_unwrapped_le element
      exact repetition _ _ (below _ (by simp [count])) (below _ (by simp only [count]; omega))

/-- To prove something of all trees, assume it for the trees directly below. -/
theorem induction_children {motive : Node → Prop}
    (step : ∀ node : Node, (∀ child ∈ node.children, motive child) → motive node) (node : Node) :
    motive node := by
  induction hn : node.count using Nat.strongRecOn generalizing node with
  | ind n ih =>
    subst hn
    refine step node fun child hchild => ih child.count ?_ child rfl
    rw [node.count_eq]
    exact Nat.lt_succ_of_le (count_le_countAll hchild)

/-! ## The compilers at a node -/

/-- What comes after going down succeeds one level further down. -/
lemma of_descend_bind {α : Type} {d : Descent} {f : Descent → Except RenderError α} {a : α}
    (h : (d.descend >>= f) = .ok a) : f { d with depth := d.depth + 1 } = .ok a := by
  by_cases hd : d.limit ≤ d.depth
  · simp [Descent.descend, hd, bind, Except.bind] at h
  · simpa [Descent.descend, hd, bind, Except.bind] using h

lemma exists_of_map_eq_ok {ε α β : Type} {x : Except ε α} {f : α → β} {b : β}
    (h : f <$> x = .ok b) : ∃ a, x = .ok a ∧ f a = b := by
  cases x with
  | error e => simp at h
  | ok a => exact ⟨a, rfl, Except.ok.inj h⟩

lemma exists_of_bind_eq_ok {ε α β : Type} {x : Except ε α} {f : α → Except ε β} {b : β}
    (h : (x >>= f) = .ok b) :
    ∃ a, x = .ok a ∧ f a = .ok b := by
  cases x with
  | error e => simp [bind, Except.bind] at h
  | ok a => exact ⟨a, rfl, h⟩

end Abnf.Node
