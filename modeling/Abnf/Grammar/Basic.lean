import Abnf.Dict
import Abnf.Node.References
import Abnf.Text.Basic

/-!
# Grammars

A grammar declares rules, in a certain order and each under a key, and may list the references
between them.  Names of rules are compared without regard to the case of ASCII letters; of several
matching keys the first one counts.
-/

namespace Abnf

/-- A grammar. -/
structure Grammar where
  /-- The definitions, in declared order. -/
  definitions : Dict Node
  /-- The names that are referred to, as far as they have been listed. -/
  listed : List String
deriving Inhabited

namespace Grammar

/-- The definition of a rule, with its key. -/
def find? (g : Grammar) (name : String) : Option (String × Node) :=
  g.definitions.entries.find? fun entry => Text.sameName entry.1 name

/-- The definition of a rule. -/
def get? (g : Grammar) (name : String) : Option Node := (g.find? name).map Prod.snd

/-- The name that a definition declares, or its key if it is no rule. -/
def declaredBy (entry : String × Node) : String := entry.2.ruleName.getD entry.1

/-- The spelling with which a rule is declared. -/
def declaredName? (g : Grammar) (name : String) : Option String := (g.find? name).map declaredBy

/-- The spelling with which a rule is declared, or the name itself if it is not. -/
def anchor (g : Grammar) (name : String) : String := (g.declaredName? name).getD name

/-- The definitions in declared order. -/
def nodes (g : Grammar) : List Node := g.definitions.values

/-- The number of definitions. -/
def size (g : Grammar) : Nat := g.definitions.size

/-- Whether nothing is defined. -/
def isEmpty (g : Grammar) : Bool := g.definitions.isEmpty

/-- The names that are referred to: as listed, or as they occur in the definitions if none is
listed. -/
def referencedNames (g : Grammar) : List String :=
  if g.listed.isEmpty then g.nodes.flatMap Node.referencedNames else g.listed

end Grammar

end Abnf
