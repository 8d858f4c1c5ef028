import Abnf.Node.Basic

/-!
# Going down a definition tree

Whoever works through the tree of a rule keeps track of the depth, and stops at a limit.  This file
holds that record and the reasons for which rendering a rule can fail.  A `Compilation` carries the
record along: it is changed at every node, on the way down and on the way up again, and the nodes
that come later find it as those before them have left it.
-/

namespace Abnf

/-- Why a rule could not be rendered. -/
inductive RenderError where
  /-- A node has no meaning where it stands. -/
  | malformed (rule : String) (kind : Kind) (reason : String)
  /-- The definition is too deep. -/
  | tooDeep (rule : String) (limit : Nat)
  /-- No rule has the name that was asked for. -/
  | unknownRule (name : String)
deriving DecidableEq, Repr, Inhabited

namespace RenderError

/-- The message of an error. -/
def message : RenderError → String
  | .malformed rule kind reason =>
    "malformed " ++ kind.tag ++ " in rule '" ++ rule ++ "': " ++ reason
  | .tooDeep rule limit =>
    "rule '" ++ rule ++ "' nests deeper than " ++ toString limit ++ " levels"
  | .unknownRule name => "rule not found: '" ++ name ++ "'"

end RenderError

/-- How deep in the definition of a rule one is. -/
structure Descent where
  /-- The name of the rule. -/
  rule : String
  /-- The greatest depth that is allowed. -/
  limit : Nat
  /-- The depth, which is zero at the top. -/
  depth : Nat := 0
deriving DecidableEq, Repr, Inhabited

namespace Descent

/-- The limit that applies where none is given. -/
def defaultLimit : Nat := 256

/-- One level further down. -/
def descend (d : Descent) : Except RenderError Descent :=
  if d.limit ≤ d.depth then .error (.tooDeep d.rule d.limit)
  else .ok { d with depth := d.depth + 1 }

/-- One level further up. -/
def ascend (d : Descent) : Descent := { d with depth := d.depth - 1 }

/-- The error for a node that has no meaning here. -/
def malformed (d : Descent) (kind : Kind) (reason : String) : RenderError :=
  .malformed d.rule kind reason

/-- What is wrong with a node at the top that is no rule. -/
def noRule : String := "expected a rule definition at the top level"

/-- What is wrong with a rule below the top. -/
def nestedRule : String := "rule definitions cannot be nested"

/-- What is wrong with a literal that has a base and no characters. -/
def noValue : String := "numeric terminal has no value"

/-- The error for a node at the top that is no rule. -/
def expectedRule (limit : Nat) (node : Node) : RenderError :=
  (Descent.mk "" limit 0).malformed node.kind noRule

theorem descend_eq_ok {d e : Descent} :
    d.descend = .ok e ↔ d.depth < d.limit ∧ e = { d with depth := d.depth + 1 } := by
  unfold descend
  split
  · next h => simp; omega
  · next h =>
    rw [Except.ok.injEq]
    exact ⟨fun h' => ⟨by omega, h'.symm⟩, fun h' => h'.2.symm⟩

@[simp] theorem ascend_descend {d e : Descent} (h : d.descend = .ok e) : e.ascend = d := by
  obtain ⟨-, rfl⟩ := descend_eq_ok.1 h
  rfl

end Descent

/-- A part of the work on a rule, which finds a depth and leaves one unless it fails. -/
abbrev Compilation := StateT Descent (Except RenderError)

namespace Compilation

/-- Goes one level down, unless that is too deep. -/
def descend : Compilation Unit := fun d => (fun here => ((), here)) <$> d.descend

/-- Goes one level up. -/
def ascend : Compilation Unit := fun d => .ok ((), d.ascend)

/-- Does something one level further down: goes down, does it, and comes up again if it has
succeeded. -/
def below (x : Compilation α) : Compilation α := do
  descend
  let a ← x
  ascend
  return a

end Compilation

end Abnf
