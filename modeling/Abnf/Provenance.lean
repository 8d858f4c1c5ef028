import Abnf.Json.Value

/-!
# Provenance

Where the definition of a rule comes from, as seen from the grammar that shows it.
-/

namespace Abnf

/-- Where a rule's definition comes from. -/
inductive Provenance where
  /-- The grammar itself. -/
  | native
  /-- Another grammar, unchanged. -/
  | imported (source : String)
  /-- Another grammar, whose definition is extended. -/
  | extended (source : String)
deriving DecidableEq, Repr, Inhabited

namespace Provenance

/-- The other grammar, if there is one. -/
def source? : Provenance → Option String
  | .native => none
  | .imported source | .extended source => some source

/-- Whether the rule is defined by the grammar itself. -/
def isNative (p : Provenance) : Bool := p = .native

/-- The provenance in words. -/
def text : Provenance → String
  | .native => "native"
  | .imported source => "imported from " ++ source
  | .extended source => "extends " ++ source

/-- The value of a provenance. -/
def toValue : Provenance → Json.Value
  | .native => .obj [("kind", .str "native")]
  | .imported source => .obj [("kind", .str "imported"), ("source", .str source)]
  | .extended source => .obj [("kind", .str "extended"), ("source", .str source)]

end Provenance

end Abnf
