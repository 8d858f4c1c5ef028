import Abnf.Node.Basic

/-!
# The references of a tree

Which rules a definition refers to, from left to right.  The list is defined by recursion on the
tree (`references`) and computed by a walk with a stack of its own, which no depth of the tree can
overflow (`referencedNames`).
-/

namespace Abnf.Node

mutual

/-- The names that a tree refers to, from left to right. -/
def references : Node → List String
  | .reference name => [name]
  | .rule _ definition => definition.references
  | .concatenation elements => referencesAll elements
  | .alternation choices => referencesAll choices
  | .group inner => inner.references
  | .repetition element _ => element.references
  | .literal _ _ _ | .range _ _ _ | .prose _ => []

/-- The names that several trees refer to, from left to right. -/
def referencesAll : List Node → List String
  | [] => []
  | node :: rest => node.references ++ referencesAll rest

end

/-- Visits the nodes of a stack in order, each before the nodes below it, and collects the names
of the references among them. -/
def walk (found : List String) : List Node → List String
  | [] => found.reverse
  | node :: stack =>
    match node with
    | .reference name => walk (name :: found) stack
    | node => walk found (node.children ++ stack)
termination_by stack => countAll stack
decreasing_by
  · simp [countAll, count]
  · simp [countAll, count_eq node]

/-- The names that a tree refers to, from left to right. -/
def referencedNames (node : Node) : List String := walk [] [node]

end Abnf.Node
