import Abnf.Grammar.Basic
import Abnf.Node.Encode

/-!
# Writing a grammar

The JSON value of a grammar: its definitions by their keys, in declared order, and the listed
references.
-/

namespace Abnf.Grammar

open Json (Value)

/-- The value of a grammar. -/
def toValue (g : Grammar) : Value :=
  .obj
    [("defs", .obj (g.definitions.entries.map fun entry => (entry.1, entry.2.toValue))),
     ("refs", .arr (g.listed.map fun name => .obj [("name", .str name)]))]

end Abnf.Grammar
