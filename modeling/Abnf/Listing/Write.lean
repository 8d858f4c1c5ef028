import Abnf.Dependencies
import Abnf.Descent
import Abnf.Diagram.Draw
import Abnf.Listing.Markup

/-!
# Writing a rule

The listing of a rule is its ABNF text, marked up.  An optional element stands in brackets, which
already group, so that parentheses directly inside them are left out.
-/

namespace Abnf

/-- The text of a literal: in quotes, or by the codes of its characters. -/
def Descent.literalText (d : Descent) (markup : Markup) (casing : Casing) (text : String)
    (base : Option Base) : Except RenderError String :=
  match base with
  | none =>
    let mark := if casing = .sensitive then "%s" else ""
    .ok (markup.escape (mark ++ "\"" ++ text ++ "\""))
  | some b =>
    match b.encodeText text with
    | some codes => .ok (markup.escape codes)
    | none => .error (d.malformed (.literal casing) Descent.noValue)

namespace Node

mutual

/-- Writes a node.  References link to the anchors that `anchor` gives for them. -/
def write (markup : Markup) (anchor : String → String) (node : Node) : Compilation String :=
  Compilation.below <|
    match node with
    | .rule _ _ => do throw ((← get).malformed .rule Descent.nestedRule)
    | .literal casing text base => do
      markup.wrap (.literal casing) <$> (← get).literalText markup casing text base
    | .range first last base =>
      pure (markup.wrap .range (markup.escape (base.encodeRange first last)))
    | .prose text => pure (markup.wrap .prose (markup.escape ("<" ++ text ++ ">")))
    | .reference name => pure (markup.refer name (anchor name))
    | .concatenation elements => do
      let parts ← writeAll markup anchor elements
      return markup.wrap .concatenation (" ".intercalate parts)
    | .alternation choices => do
      let parts ← writeAll markup anchor choices
      return markup.wrap .alternation (" / ".intercalate parts)
    | .group inner => do
      let text ← write markup anchor inner
      return markup.wrap .group ("(" ++ text ++ ")")
    | .repetition element bounds =>
      if bounds.isOptional then do
        let text ←
          match element with
          | .group inner => write markup anchor inner
          | element => write markup anchor element
        return markup.wrap .repetition ("[" ++ text ++ "]")
      else do
        let text ← write markup anchor element
        return markup.wrap .repetition (bounds.star ++ text)

/-- Writes several nodes, one after the other. -/
def writeAll (markup : Markup) (anchor : String → String) :
    List Node → Compilation (List String)
  | [] => pure []
  | node :: rest => do
    let text ← write markup anchor node
    let texts ← writeAll markup anchor rest
    return text :: texts

end

end Node

/-- What a listing is written with. -/
structure Listing where
  /-- Where the rules of other grammars come from. -/
  dependencies : Dependencies
  /-- The markup. -/
  markup : Markup
  /-- The grammar in whose spelling references link to rules. -/
  grammar : Option Grammar := none
  /-- The greatest depth of a definition. -/
  maxDepth : Nat := Descent.defaultLimit

namespace Listing

/-- Writes a rule: its name, an equals sign and its definition. -/
def rule (listing : Listing) : Node → Except RenderError String
  | .rule name definition => do
    let declared := listing.markup.declare name (listing.dependencies.provenance name)
    let body ← (definition.write listing.markup (anchorIn listing.grammar)).run'
      { rule := name, limit := listing.maxDepth }
    .ok (listing.markup.wrap .rule (declared ++ " = " ++ body))
  | node => .error (Descent.expectedRule listing.maxDepth node)

end Listing

end Abnf
