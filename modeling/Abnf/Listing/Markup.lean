import Abnf.Node.Basic
import Abnf.Provenance
import Abnf.Text.Entity

/-!
# Markup of listings

A listing is ABNF text with markup around its parts.  What the markup looks like is a `Markup`: how
a construct is wrapped, how literal text is escaped, and how the name of a rule is written where it
is declared and where it is referred to.  There is HTML markup, with links, and plain text.
-/

namespace Abnf

/-- How links to other grammars are built from their names. -/
inductive LinkStyle where
  /-- A leading `RFC` is dropped: `RFC1234` gives `?1234`. -/
  | rfcNumber
  /-- The name is kept: `RFC1234` gives `?RFC1234`. -/
  | verbatim
deriving DecidableEq, Repr, Inhabited

namespace LinkStyle

/-- What is left of a name after `rfc`, in whatever case, unless nothing is left. -/
def number (source : String) : String :=
  match source.toList with
  | r :: f :: c :: rest =>
    if r.toLower == 'r' && f.toLower == 'f' && c.toLower == 'c' && !rest.isEmpty then
      String.ofList rest
    else source
  | _ => source

/-- The link to another grammar. -/
def grammarLink (style : LinkStyle) (source : String) : String :=
  match style with
  | .rfcNumber => "?" ++ number source
  | .verbatim => "?" ++ source

/-- The link to a rule of another grammar. -/
def ruleLink (style : LinkStyle) (source rule : String) : String :=
  style.grammarLink source ++ "#" ++ rule

end LinkStyle

/-- The class that marks a construct. -/
def Kind.styleClass : Kind → String
  | .rule => "rule"
  | .literal .sensitive => "case-sensitive-string"
  | .literal .insensitive => "case-insensitive-string"
  | .range => "range"
  | .prose => "prose"
  | .reference => "rulename"
  | .concatenation => "concatenation"
  | .alternation => "alternation"
  | .group => "group"
  | .repetition => "repetition"

/-- A way of marking up a listing. -/
structure Markup where
  /-- Marks the text of a construct. -/
  wrap : Kind → String → String
  /-- Writes literal text. -/
  escape : String → String
  /-- Writes the name of a rule where it is declared. -/
  declare : String → Provenance → String
  /-- Writes the name of a rule where it is referred to, with the anchor of the rule. -/
  refer : String → String → String

/-- What a provenance says about its source. -/
def Provenance.verb : Provenance → String
  | .native => ""
  | .imported _ => "Imported from"
  | .extended _ => "Extends"

namespace Markup

/-- An element with a class. -/
def span (styleClass inner : String) : String :=
  "<span class='" ++ styleClass ++ "'>" ++ inner ++ "</span>"

/-- A link around some markup. -/
def link (href inner : String) : String := "<a href=\"" ++ href ++ "\">" ++ inner ++ "</a>"

/-- The anchor of a rule. -/
def definitionAnchor (name : String) : String :=
  "<dfn id=\"" ++ Text.escapeAttribute name ++ "\">" ++ Text.escapeHtml name ++ "</dfn>"

/-- The declared name of a rule in HTML: its anchor, and for a rule of another grammar a comment
and a link to the rule there. -/
def declareHtml (style : LinkStyle) (name : String) (provenance : Provenance) : String :=
  match provenance.source? with
  | none => definitionAnchor name
  | some source =>
    span "comment" ("; " ++ provenance.verb ++ " " ++
        link (Text.escapeAttribute (style.grammarLink source)) (Text.escapeHtml source)) ++
      "\n" ++ link (Text.escapeAttribute (style.ruleLink source name)) (definitionAnchor name)

/-- HTML: every construct in an element of its class, and links between rules. -/
def html (style : LinkStyle) : Markup where
  wrap kind inner := span kind.styleClass inner
  escape := Text.escapeHtml
  declare := declareHtml style
  refer name target := link ("#" ++ Text.escapeAttribute target) (Text.escapeHtml name)

/-- Plain text: no markup, and a comment line for a rule of another grammar. -/
def plain : Markup where
  wrap _ inner := inner
  escape text := text
  declare name provenance :=
    match provenance.source? with
    | none => name
    | some source => "; " ++ provenance.verb ++ " " ++ source ++ "\n" ++ name
  refer name _ := name

end Markup

end Abnf
