import Abnf.Diagram.Script
import Abnf.Rendering.Options

/-!
# Renderings

A rendering shows the rules of a grammar in declared order, each with its listing and, unless it is
left out, its diagram.  It can be put together as plain text, as a script of diagrams, as a page of
HTML or as JSON.
-/

namespace Abnf

open Json (Value)

/-- A rule as it is shown. -/
structure RenderedRule where
  /-- The name with which the rule is declared. -/
  name : String
  /-- Where its definition comes from. -/
  provenance : Provenance
  /-- Whether no rule of the grammar refers to it. -/
  entryPoint : Bool
  /-- The listing. -/
  text : String
  /-- The diagram, if there is one. -/
  diagram : Option Diagram
deriving Repr, Inhabited

/-- The rules of a grammar as they are shown. -/
structure Rendering where
  /-- The rules in declared order. -/
  rules : List RenderedRule
  /-- How listings and diagrams are arranged on a page. -/
  layout : Layout
deriving Repr, Inhabited

namespace RenderedRule

/-- The listing of a rule as a block of a page. -/
def listingBlock (rule : RenderedRule) : String :=
  "<pre class=\"abnf\" data-rule=\"" ++ Text.escapeAttribute rule.name ++ "\">" ++ rule.text ++
    "</pre>\n"

/-- The diagram of a rule as a script that draws it where it stands, if there is one. -/
def scriptBlock (rule : RenderedRule) : String :=
  match rule.diagram with
  | some d => "<script>" ++ d.script ++ ".addTo();</script>\n"
  | none => ""

/-- The value of a rule. -/
def toValue (rule : RenderedRule) : Value :=
  .obj
    [("name", .str rule.name), ("provenance", rule.provenance.toValue),
     ("entry_point", .bool rule.entryPoint), ("text", .str rule.text),
     ("diagram", Value.ofOption Diagram.toValue rule.diagram)]

end RenderedRule

namespace Rendering

/-- All listings, each followed by an empty line. -/
def text (r : Rendering) : String := String.join (r.rules.map fun rule => rule.text ++ "\n\n")

/-- The diagrams in declared order. -/
def diagrams (r : Rendering) : List Diagram := r.rules.filterMap RenderedRule.diagram

/-- The expressions that build the diagrams, one on each line. -/
def railroad (r : Rendering) : String := String.join (r.diagrams.map fun d => d.script ++ "\n")

/-- The page. -/
def html (r : Rendering) : String :=
  match r.layout with
  | .interleaved => String.join (r.rules.map fun rule => rule.listingBlock ++ rule.scriptBlock)
  | .grouped =>
    String.join (r.rules.map RenderedRule.listingBlock) ++
      String.join (r.rules.map RenderedRule.scriptBlock)

/-- The value of a rendering. -/
def toValue (r : Rendering) : Value := .obj [("rules", .arr (r.rules.map RenderedRule.toValue))]

end Rendering

end Abnf
