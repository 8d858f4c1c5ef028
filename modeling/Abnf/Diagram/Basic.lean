import Abnf.Json.Value

/-!
# Railroad diagrams

A railroad diagram shows a definition as tracks between boxes.  The shapes are those of the
railroad-diagrams library for JavaScript; a diagram is handed on either as the expression that
builds it there, or as a JSON tree whose nodes are tagged with the name of their shape.
-/

namespace Abnf

/-- A part of a railroad diagram. -/
inductive Diagram where
  /-- A whole diagram. -/
  | diagram (items : List Diagram)
  /-- A whole diagram that is marked as an entry point. -/
  | complexDiagram (items : List Diagram)
  /-- A box for characters. -/
  | terminal (text : String)
  /-- A box for a reference, with its link. -/
  | nonTerminal (name href : String)
  /-- One of several branches; `default` is the number of the straight one. -/
  | choice (default : Nat) (branches : List Diagram)
  /-- One part after the other. -/
  | sequence (items : List Diagram)
  /-- A part in a frame. -/
  | group (item : Diagram)
  /-- A part that can be passed by. -/
  | optional (item : Diagram)
  /-- A loop that can be passed by, with a label. -/
  | zeroOrMore (item label : Diagram)
  /-- A loop, with a label. -/
  | oneOrMore (item label : Diagram)
  /-- A text without a box. -/
  | comment (text : String)
deriving Repr, Inhabited

namespace Diagram

/-- The link to an anchor of the same page. -/
def anchorLink (target : String) : String := "#" ++ target

/-- The box for a reference. -/
def linkTo (name target : String) : Diagram := .nonTerminal name (anchorLink target)

/-- The name of a shape. -/
def shape : Diagram → String
  | .diagram _ => "Diagram"
  | .complexDiagram _ => "ComplexDiagram"
  | .terminal _ => "Terminal"
  | .nonTerminal _ _ => "NonTerminal"
  | .choice _ _ => "Choice"
  | .sequence _ => "Sequence"
  | .group _ => "Group"
  | .optional _ => "Optional"
  | .zeroOrMore _ _ => "ZeroOrMore"
  | .oneOrMore _ _ => "OneOrMore"
  | .comment _ => "Comment"

/-- Whether a part is a whole diagram. -/
def isWhole : Diagram → Bool
  | .diagram _ | .complexDiagram _ => true
  | _ => false

/-- What a whole diagram shows, without its label. -/
def body? : Diagram → Option Diagram
  | .diagram items | .complexDiagram items => items.getLast?
  | _ => none

end Diagram

end Abnf
