/-!
# Repetition bounds

How often an element may occur: at least `min` times, and at most `max` times if there is a limit.
-/

namespace Abnf

/-- The bounds of a repetition. -/
structure Repeat where
  /-- The least number of occurrences. -/
  min : UInt32
  /-- The greatest number of occurrences, none for a repetition without limit. -/
  max : Option UInt32
deriving DecidableEq, Repr, Inhabited

namespace Repeat

/-- Whether the element may occur once or not at all. -/
def isOptional (r : Repeat) : Bool := r.min == 0 && r.max == some 1

/-- Whether the number of occurrences is fixed. -/
def isExact (r : Repeat) : Bool := r.max == some r.min

/-- The bounds as a diagram shows them: `2`, `1-3`, or `0-∞`. -/
def label (r : Repeat) : String :=
  match r.max with
  | some max =>
    if max = r.min then toString r.min.toNat
    else toString r.min.toNat ++ "-" ++ toString max.toNat
  | none => toString r.min.toNat ++ "-∞"

/-- The bounds as ABNF writes them in front of the element: `2`, `1*`, `*`, `*5`, `2*5`. -/
def star (r : Repeat) : String :=
  if r.isExact then toString r.min.toNat
  else
    let least := if r.min = 0 then "" else toString r.min.toNat
    let most := (r.max.map fun max => toString max.toNat).getD ""
    least ++ "*" ++ most

theorem isOptional_iff (r : Repeat) : r.isOptional = true ↔ r = ⟨0, some 1⟩ := by
  cases r
  simp [isOptional]

end Repeat

end Abnf
