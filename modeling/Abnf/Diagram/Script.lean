import Abnf.Diagram.Basic

/-!
# Writing a diagram

The expression that builds a diagram is made of nested calls, one for each part.  Its texts are
string literals without `<`, so that the expression can stand inside a `script` element.
-/

namespace Abnf.Diagram

open Json (Value)

/-- A call of the function for a shape. -/
def call (shape : String) (arguments : List String) : String :=
  shape ++ "(" ++ ", ".intercalate arguments ++ ")"

mutual

/-- The expression that builds a diagram. -/
def script : Diagram → String
  | .diagram items => call "Diagram" (scripts items)
  | .complexDiagram items => call "ComplexDiagram" (scripts items)
  | .terminal text => call "Terminal" [Text.quoteForScript text]
  | .nonTerminal name href =>
    call "NonTerminal"
      [Text.quoteForScript name, "\x7bhref: " ++ Text.quoteForScript href ++ "\x7d"]
  | .choice default branches => call "Choice" (toString default :: scripts branches)
  | .sequence items => call "Sequence" (scripts items)
  | .group item => call "Group" [item.script]
  | .optional item => call "Optional" [item.script]
  | .zeroOrMore item label => call "ZeroOrMore" [item.script, label.script]
  | .oneOrMore item label => call "OneOrMore" [item.script, label.script]
  | .comment text => call "Comment" [Text.quoteForScript text]

/-- The expressions that build several diagrams. -/
def scripts : List Diagram → List String
  | [] => []
  | d :: rest => d.script :: scripts rest

end

@[simp] theorem scripts_eq (ds : List Diagram) : scripts ds = ds.map script := by
  induction ds with
  | nil => rfl
  | cons d rest ih => simp [scripts, ih]

/-- The value of a part with the given members. -/
def tagged (shape : String) (members : List (String × Value)) : Value :=
  .obj (("type", .str shape) :: members)

mutual

/-- The value of a diagram. -/
def toValue : Diagram → Value
  | .diagram items => tagged "Diagram" [("items", .arr (toValues items))]
  | .complexDiagram items => tagged "ComplexDiagram" [("items", .arr (toValues items))]
  | .terminal text => tagged "Terminal" [("text", .str text)]
  | .nonTerminal name href => tagged "NonTerminal" [("name", .str name), ("href", .str href)]
  | .choice default branches =>
    tagged "Choice" [("default", .int default), ("branches", .arr (toValues branches))]
  | .sequence items => tagged "Sequence" [("items", .arr (toValues items))]
  | .group item => tagged "Group" [("item", item.toValue)]
  | .optional item => tagged "Optional" [("item", item.toValue)]
  | .zeroOrMore item label =>
    tagged "ZeroOrMore" [("item", item.toValue), ("repeat", label.toValue)]
  | .oneOrMore item label =>
    tagged "OneOrMore" [("item", item.toValue), ("repeat", label.toValue)]
  | .comment text => tagged "Comment" [("text", .str text)]

/-- The values of several diagrams. -/
def toValues : List Diagram → List Value
  | [] => []
  | d :: rest => d.toValue :: toValues rest

end

@[simp] theorem toValues_eq (ds : List Diagram) : toValues ds = ds.map toValue := by
  induction ds with
  | nil => rfl
  | cons d rest ih => simp [toValues, ih]

end Abnf.Diagram
