import Abnf.Descent
import Abnf.Diagram.Basic
import Abnf.EntryPoints

/-!
# Drawing a rule

The diagram of a rule follows its definition.  Parentheses around a repeated element are not drawn:
the loop, or the way past the element, already holds it together.  A loop carries its bounds as a
label, since the tracks cannot show them.
-/

namespace Abnf

/-- The text in the box of a literal: in quotes, or the code of the first character. -/
def Descent.terminalText (d : Descent) (kind : Kind) (text : String) (base : Option Base) :
    Except RenderError String :=
  match base with
  | none => .ok ("\"" ++ text ++ "\"")
  | some b =>
    match b.encodeFirst text with
    | some code => .ok code
    | none => .error (d.malformed kind Descent.noValue)

/-- A repeated part: a way past it if it is optional, a labelled loop otherwise. -/
def Repeat.draw (r : Repeat) (item : Diagram) : Diagram :=
  if r.isOptional then .optional item
  else if r.min = 0 then .zeroOrMore item (.comment r.label)
  else .oneOrMore item (.comment r.label)

namespace Node

mutual

/-- Lays the tracks of a node.  References link to the anchors that `anchor` gives for them. -/
def lay (anchor : String → String) (node : Node) : Compilation Diagram :=
  Compilation.below <|
    match node with
    | .rule _ _ => do throw ((← get).malformed .rule Descent.nestedRule)
    | .literal casing text base => do
      .terminal <$> (← get).terminalText (.literal casing) text base
    | .range first last base => pure (.terminal (base.encodeRange first last))
    | .prose text => pure (.terminal ("<" ++ text ++ ">"))
    | .reference name => pure (.linkTo name (anchor name))
    | .concatenation elements => .sequence <$> layAll anchor elements
    | .alternation choices => .choice 0 <$> layAll anchor choices
    | .group inner => .group <$> lay anchor inner
    | .repetition element bounds =>
      match element with
      | .group inner => bounds.draw <$> lay anchor inner
      | element => bounds.draw <$> lay anchor element

/-- Lays the tracks of several nodes, one after the other. -/
def layAll (anchor : String → String) : List Node → Compilation (List Diagram)
  | [] => pure []
  | node :: rest => do
    let diagram ← lay anchor node
    let diagrams ← layAll anchor rest
    return diagram :: diagrams

end

end Node

/-- What a diagram is drawn with. -/
structure Drawing where
  /-- The rules whose diagrams are marked as entry points. -/
  entryPoints : EntryPoints
  /-- The grammar in whose spelling references link to rules. -/
  grammar : Option Grammar := none
  /-- Whether the diagram is labelled with the name of its rule. -/
  label : Bool := true
  /-- The greatest depth of a definition. -/
  maxDepth : Nat := Descent.defaultLimit

/-- The anchor of a rule: its declared spelling where there is a grammar that declares it. -/
def anchorIn (grammar : Option Grammar) (name : String) : String :=
  match grammar with
  | some g => g.anchor name
  | none => name

namespace Drawing

/-- The whole diagram of a rule. -/
def whole (drawing : Drawing) (name : String) (body : Diagram) : Diagram :=
  let items := if drawing.label then [.comment name, body] else [body]
  if drawing.entryPoints.contains name then .complexDiagram items else .diagram items

/-- Draws a rule. -/
def rule (drawing : Drawing) : Node → Except RenderError Diagram
  | .rule name definition =>
    drawing.whole name <$>
      (definition.lay (anchorIn drawing.grammar)).run'
        { rule := name, limit := drawing.maxDepth }
  | node => .error (Descent.expectedRule drawing.maxDepth node)

end Drawing

end Abnf
