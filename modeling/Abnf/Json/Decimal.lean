/-!
# The decimal text of a binary fraction

A 64-bit floating point number is written with the fewest decimal digits that still tell it apart
from its neighbours, and with the nearest such decimal where several have that many digits.

A positive number is `m · 2 ^ q`.  The reals that round to it form an interval whose ends lie half
way to its neighbours; the ends belong to it when `m` is even.  For one digit, two digits, and so
on, the two decimals around the number on that grid are tried against the interval.  All of this is
exact arithmetic on natural numbers, in quarters of `2 ^ q`.
-/

namespace Abnf.Decimal

/-- A positive binary fraction `mantissa · 2 ^ scale` with the interval that rounds to it. -/
structure Binary where
  /-- The integer that the power of two multiplies. -/
  mantissa : Nat
  /-- The exponent of the power of two. -/
  scale : Int
  /-- How far the interval reaches down, in quarters of `2 ^ scale`. -/
  below : Nat

namespace Binary

/-- The binary fraction behind the bits of a positive number: eleven bits of exponent, then
fifty-two of mantissa.  Below a power of two the neighbours lie twice as close. -/
def ofBits (bits : Nat) : Binary :=
  let exponent : Nat := bits / Nat.pow 2 52 % Nat.pow 2 11
  let fraction : Nat := bits % Nat.pow 2 52
  if exponent = 0 then ⟨fraction, -1074, 2⟩
  else
    let below := if fraction = 0 ∧ exponent ≠ 1 then 1 else 2
    ⟨Nat.pow 2 52 + fraction, (exponent : Int) - 1075, below⟩

/-- The factors `(a, b)` for which `c · 10 ^ unit` compares to `x` quarters of `2 ^ scale` as
`c * a` does to `x * b`. -/
def factors (x : Binary) (unit : Int) : Nat × Nat :=
  let quarter := x.scale - 2
  (Nat.pow 2 (-quarter).toNat * Nat.pow 10 unit.toNat,
    Nat.pow 2 quarter.toNat * Nat.pow 10 (-unit).toNat)

/-- Whether the decimal `c · 10 ^ unit` rounds to the number. -/
def accepts (x : Binary) (unit : Int) (c : Nat) : Bool :=
  let (a, b) := x.factors unit
  let low := (4 * x.mantissa - x.below) * b
  let high := (4 * x.mantissa + 2) * b
  if x.mantissa % 2 = 0 then low ≤ c * a && c * a ≤ high else low < c * a && c * a < high

/-- The position of the leading digit: the number lies between `10 ^ e` and `10 ^ (e + 1)`. -/
def leading (x : Binary) : Int :=
  let atLeast (e : Int) : Bool :=
    let (a, b) := x.factors e
    a ≤ 4 * x.mantissa * b
  let candidates := (List.range 640).map fun (n : Nat) => (309 : Int) - n
  (candidates.find? atLeast).getD (-324)

/-- The decimal on the grid `10 ^ unit` that rounds to the number, if there is one. -/
def onGrid (x : Binary) (unit : Int) : Option Nat :=
  let (a, b) := x.factors unit
  let value := 4 * x.mantissa * b
  let low := value / a
  let upperIsNearer := 2 * (value - low * a) > a ||
    (2 * (value - low * a) == a && low % 2 == 1)
  match x.accepts unit low, x.accepts unit (low + 1) with
  | true, true => some (if upperIsNearer then low + 1 else low)
  | true, false => some low
  | false, true => some (low + 1)
  | false, false => none

/-- The shortest decimal `(c, unit)`, standing for `c · 10 ^ unit`, that rounds to the number. -/
def shortest (x : Binary) : Nat × Int :=
  let top := x.leading
  let grids := (List.range 17).map fun (n : Nat) => top - n
  (grids.findSome? fun unit => (x.onGrid unit).map fun c => (c, unit)).getD (0, 0)

end Binary

/-- An exponent, always with its sign. -/
def exponentText (e : Int) : String := (if e < 0 then "e-" else "e+") ++ toString e.natAbs

/-- Lays out significant digits whose first one stands at `10 ^ e`: in positional notation, with at
least one digit after the point, while the exponent is small, and with an exponent otherwise. -/
def layout (digits : List Char) (e : Int) : String :=
  let text := String.ofList
  if 16 ≤ e ∨ e < -5 then
    match digits with
    | [] => "0"
    | [d] => text [d] ++ exponentText e
    | d :: rest => text [d] ++ "." ++ text rest ++ exponentText e
  else if e < 0 then
    "0." ++ text (List.replicate (-e - 1).toNat '0') ++ text digits
  else
    let whole := e.toNat + 1
    let padded := digits ++ List.replicate (whole - digits.length) '0'
    let fraction := padded.drop whole
    text (padded.take whole) ++ "." ++ (if fraction.isEmpty then "0" else text fraction)

/-- The text of a finite number. -/
def text (x : Float) : String :=
  let bits := x.toBits.toNat
  let magnitude := bits % Nat.pow 2 63
  let sign := if bits < Nat.pow 2 63 then "" else "-"
  if magnitude = 0 then sign ++ "0.0"
  else
    let (c, unit) := (Binary.ofBits magnitude).shortest
    let digits := Nat.toDigits 10 c
    let kept := (digits.reverse.dropWhile (· == '0')).reverse
    sign ++ layout kept (unit + (digits.length : Int) - 1)

end Abnf.Decimal
