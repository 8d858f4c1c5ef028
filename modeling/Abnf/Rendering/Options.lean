import Abnf.Descent
import Abnf.Json.Record
import Abnf.Listing.Markup

/-!
# Options of a rendering

What can be chosen when a grammar is rendered.  The choices that have names can be read from JSON
and are written as JSON by their names.
-/

namespace Abnf

open Json (Choice Value)

/-- Which rules get a diagram. -/
inductive DiagramPolicy where
  /-- The rules of the grammar itself.  A rule of another grammar is drawn there. -/
  | skipForeign
  /-- All rules. -/
  | always
deriving DecidableEq, Repr, Inhabited

/-- How listings and diagrams are arranged on a page. -/
inductive Layout where
  /-- Each listing is followed by its diagram. -/
  | interleaved
  /-- The listings are followed by the diagrams. -/
  | grouped
deriving DecidableEq, Repr, Inhabited

/-- The policies by name. -/
def DiagramPolicy.named : Choice DiagramPolicy :=
  ⟨[("skip-foreign", .skipForeign), ("always", .always)]⟩

/-- The name of a policy. -/
def DiagramPolicy.name : DiagramPolicy → String
  | .skipForeign => "skip-foreign"
  | .always => "always"

/-- The layouts by name. -/
def Layout.named : Choice Layout := ⟨[("interleaved", .interleaved), ("grouped", .grouped)]⟩

/-- The name of a layout. -/
def Layout.name : Layout → String
  | .interleaved => "interleaved"
  | .grouped => "grouped"

/-- The link styles by name. -/
def LinkStyle.named : Choice LinkStyle := ⟨[("rfc-number", .rfcNumber), ("verbatim", .verbatim)]⟩

/-- The name of a link style. -/
def LinkStyle.name : LinkStyle → String
  | .rfcNumber => "rfc-number"
  | .verbatim => "verbatim"

/-- The options of a rendering. -/
structure Options where
  /-- Which rules get a diagram. -/
  diagrams : DiagramPolicy := .skipForeign
  /-- Whether a diagram is labelled with the name of its rule. -/
  label : Bool := true
  /-- The greatest depth of a definition. -/
  maxDepth : Nat := Descent.defaultLimit
  /-- How links to other grammars are built. -/
  links : LinkStyle := .rfcNumber
  /-- How listings and diagrams are arranged. -/
  layout : Layout := .interleaved
deriving DecidableEq, Repr, Inhabited

end Abnf
