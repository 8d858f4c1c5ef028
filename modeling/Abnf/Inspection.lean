import Abnf.Dependencies
import Abnf.EntryPoints
import Abnf.Text.Sheet

/-!
# Inspecting a grammar

A summary of a grammar lists its definitions in declared order: the name, where the definition comes
from, and whether it is an entry point.  Unlike a rendering it never fails; a definition that is no
rule goes by its key.  It is shown as a table, which a printer of tables puts out, or as JSON.
-/

namespace Abnf

open Json (Value)
open Text (Cell Sheet)

/-- One line of a summary. -/
structure RuleSummary where
  /-- The name of the rule. -/
  name : String
  /-- Where its definition comes from. -/
  provenance : Provenance
  /-- Whether no rule refers to it. -/
  entryPoint : Bool
deriving DecidableEq, Repr, Inhabited

namespace RuleSummary

/-- The value of a line. -/
def toValue (s : RuleSummary) : Value :=
  .obj [("name", .str s.name), ("provenance", s.provenance.toValue),
    ("entry_point", .bool s.entryPoint)]

/-- The cell for a provenance, in a colour unless it is native. -/
def kindCell : Provenance → Cell
  | .native => { text := "native" }
  | .imported _ => { text := "imported", colour := some .cyan }
  | .extended _ => { text := "extends", colour := some .yellow }

/-- The cells of a line in a table. -/
def cells (s : RuleSummary) : List Cell :=
  [{ text := s.name }, kindCell s.provenance, { text := s.provenance.source?.getD "-" },
    { text := if s.entryPoint then "yes" else "" }]

/-- The table of a summary. -/
def sheet (summaries : List RuleSummary) : Sheet where
  borders := .aroundAndBelowHeader
  arrangement := .byTerminal
  header := ["Rule", "Provenance", "Source", "Entry point"]
  rows := summaries.map cells

/-- The line of numbers below the table. -/
def counts (summaries : List RuleSummary) : String :=
  toString summaries.length ++ " rule(s), " ++
    toString (summaries.countP entryPoint) ++ " entry point(s)"

/-- The summary as text, with a table from a printer of tables. -/
def text (print : Sheet → String) (summaries : List RuleSummary) : String :=
  print (sheet summaries) ++ "\n\n" ++ counts summaries ++ "\n"

/-- The summary as JSON. -/
def json (summaries : List RuleSummary) : String :=
  (Value.arr (summaries.map toValue)).indented ++ "\n"

end RuleSummary

/-- The summary of a grammar. -/
def Grammar.summaries (g : Grammar) (d : Dependencies) : List RuleSummary :=
  let points := g.entryPoints
  g.definitions.entries.map fun entry =>
    let name := Grammar.declaredBy entry
    ⟨name, d.provenance name, points.contains name⟩

end Abnf
