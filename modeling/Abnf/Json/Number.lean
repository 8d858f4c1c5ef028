import Abnf.Json.Decimal
import Abnf.Json.Reader

/-!
# Numbers

A number is scanned first, as its sign and its groups of digits, and valued afterwards.  A number
without fraction and exponent that fits into 64 bits is a whole number; any other number, and minus
zero, is a floating point number.

The digits of a floating point number are gathered into a significand of at most 64 bits.  Digits
that do not fit are dropped and only counted; the power of ten is applied to the significand
afterwards, by one multiplication or division, or by several where it exceeds the largest power.
-/

namespace Abnf.Json

/-- A number as it is written. -/
structure Numeral where
  /-- Whether a minus sign precedes it. -/
  negative : Bool
  /-- The digits before the point. -/
  whole : List Char
  /-- The digits after the point, none where there is no point. -/
  fraction : List Char
  /-- Whether the exponent is negative, and its digits. -/
  exponent : Option (Bool × List Char)

namespace Numeral

/-- The value of a digit. -/
def digit (c : Char) : Nat := c.toNat - 48

/-- The largest significand. -/
def maxSignificand : Nat := UInt64.size - 1

/-- The largest exponent that is told from its neighbours. -/
def maxExponent : Nat := UInt32.size / 2 - 1

/-- Adds digits to a number while it does not exceed `limit`.  The digits from the first one on
that does not fit are returned too. -/
def gather (limit : Nat) : Nat → List Char → Nat × List Char
  | n, [] => (n, [])
  | n, c :: rest =>
    let next := n * 10 + digit c
    if limit < next then (n, c :: rest) else gather limit next rest

/-- A power of ten with an exponent of at most 308. -/
def powerOfTen (n : Nat) : Float := Float.ofScientific 1 false n

/-- The value `f · 10 ^ e`, unless it is too large.  A very negative exponent is applied in steps;
three of them bring any significand down to zero. -/
def scaled (steps : Nat) (f : Float) (e : Int) : Option Float :=
  if e.natAbs ≤ 308 then
    if 0 ≤ e then
      let product := f * powerOfTen e.toNat
      if product.isInf then none else some product
    else some (f / powerOfTen e.natAbs)
  else if f == 0 then some f
  else if 0 ≤ e then none
  else match steps with
    | 0 => some 0
    | steps + 1 => scaled steps (f / powerOfTen 308) (e + 308)

/-- The floating point value `significand · 10 ^ e` with its sign, as a value. -/
def floatValue (negative : Bool) (significand : Nat) (e : Int) : Option Value :=
  (scaled 3 (Float.ofNat significand) e).map fun f =>
    .float (Decimal.text (if negative then -f else f))

/-- The value of a number.  Where the number is too large, the number of its last characters that
do not matter for this. -/
def value (number : Numeral) : Except Nat Value :=
  let (significand, dropped) := gather maxSignificand 0 number.whole
  let isWhole := number.fraction.isEmpty && number.exponent.isNone && dropped.isEmpty
  if isWhole && !number.negative then .ok (.int significand)
  else if isWhole && 0 < significand && significand ≤ UInt64.size / 2 then .ok (.int (-significand))
  else
    let (significand, unused) := gather maxSignificand significand number.fraction
    let shift : Int := (dropped.length : Int) + unused.length - number.fraction.length
    let (downward, digits) := number.exponent.getD (false, [])
    match gather maxExponent 0 digits with
    | (_, _ :: rest) =>
      if significand = 0 ∨ downward then
        .ok (.float (if number.negative then "-0.0" else "0.0"))
      else .error rest.length
    | (e, []) =>
      match floatValue number.negative significand (if downward then shift - e else shift + e) with
      | some v => .ok v
      | none => .error 0

end Numeral

namespace Reader

/-- Reads the digits that follow. -/
def digits : Reader (List Char) := fun cursor =>
  .ok (cursor.rest.takeWhile Char.isDigit) (cursor.dropWhile Char.isDigit)

/-- Reads the digits that have to follow.  The cause `ended` applies if the text ends instead. -/
def someDigits (ended : Cause) : Reader (List Char) := do
  match ← peek with
  | none => failAhead ended
  | some c => if c.isDigit then digits else failAhead .badNumber

/-- Reads the digits before the point: a zero stands alone. -/
def wholeDigits (ended : Cause) : Reader (List Char) := do
  match ← peek with
  | some '0' =>
    skip 1
    match ← peek with
    | some c => if c.isDigit then failAhead .badNumber else pure ['0']
    | none => pure ['0']
  | _ => someDigits ended

/-- Reads the point and the digits after it, if a point follows. -/
def fractionDigits (ended : Cause) : Reader (List Char) := do
  match ← peek with
  | some '.' =>
    skip 1
    someDigits ended
  | _ => pure []

/-- Reads the sign of an exponent: whether it is negative. -/
def exponentSign : Reader Bool := do
  match ← peek with
  | some '-' =>
    skip 1
    pure true
  | some '+' =>
    skip 1
    pure false
  | _ => pure false

/-- Reads an exponent, if one follows. -/
def exponentPart (ended : Cause) : Reader (Option (Bool × List Char)) := do
  match ← peek with
  | some 'e' | some 'E' =>
    skip 1
    let downward ← exponentSign
    let ds ← someDigits ended
    pure (some (downward, ds))
  | _ => pure none

/-- Reads a number as it is written.  The cause `ended` applies if the text ends inside it. -/
def numeral (ended : Cause) : Reader Numeral := do
  let negative := (← peek) == some '-'
  if negative then skip 1
  let whole ← wholeDigits ended
  let fraction ← fractionDigits ended
  let exponent ← exponentPart ended
  pure ⟨negative, whole, fraction, exponent⟩

/-- Fails a number of bytes before the place where the cursor stands. -/
def failBefore (bytes : Nat) (cause : Cause) : Reader α := fun cursor =>
  .failed cause ⟨cursor.position.line, cursor.position.column - bytes⟩

/-- Reads a number and values it. -/
def number : Reader Value := do
  let n ← numeral .endOfValue
  match n.value with
  | .ok v => pure v
  | .error unread => failBefore unread .numberTooLarge

end Reader

end Abnf.Json
