import Abnf.Json.Value
import Abnf.Node.Basic

/-!
# Writing a definition tree

The JSON value of a node: an object with the name of its kind and all fields of that kind, in their
order.  Fields without a value are written as `null`.
-/

namespace Abnf

open Json (Value)

/-- A 32-bit number as a value. -/
def wordValue (n : UInt32) : Value := .int n.toNat

namespace Base

/-- The value of a base. -/
def toValue (b : Base) : Value := .int b.radix

end Base

namespace Repeat

/-- The value of repetition bounds. -/
def toValue (r : Repeat) : Value :=
  .obj [("min", wordValue r.min), ("max", Value.ofOption wordValue r.max)]

end Repeat

namespace Node

mutual

/-- The value of a node. -/
def toValue : Node → Value
  | .rule name definition =>
    .obj [("type", .str Kind.rule.tag), ("name", .str name), ("def", definition.toValue)]
  | .literal casing text base =>
    .obj [("type", .str (Kind.literal casing).tag), ("str", .str text),
      ("base", Value.ofOption Base.toValue base)]
  | .range first last base =>
    .obj [("type", .str Kind.range.tag), ("first", wordValue first), ("last", wordValue last),
      ("base", base.toValue)]
  | .prose text => .obj [("type", .str Kind.prose.tag), ("str", .str text)]
  | .reference name => .obj [("type", .str Kind.reference.tag), ("name", .str name)]
  | .concatenation elements =>
    .obj [("type", .str Kind.concatenation.tag), ("elements", .arr (toValues elements))]
  | .alternation choices =>
    .obj [("type", .str Kind.alternation.tag), ("alts", .arr (toValues choices))]
  | .group inner => .obj [("type", .str Kind.group.tag), ("alt", inner.toValue)]
  | .repetition element bounds =>
    .obj [("type", .str Kind.repetition.tag), ("el", element.toValue), ("rep", bounds.toValue)]

/-- The values of several nodes. -/
def toValues : List Node → List Value
  | [] => []
  | node :: rest => node.toValue :: toValues rest

end

@[simp] theorem toValues_eq (nodes : List Node) : toValues nodes = nodes.map toValue := by
  induction nodes with
  | nil => rfl
  | cons node rest ih => simp [toValues, ih]

end Node

end Abnf
