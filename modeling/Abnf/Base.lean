/-!
# Numeric bases

A terminal can be given by the codes of its characters, in base two, ten or sixteen: `%x41` is the
letter A, `%d13.10` a carriage return and a line feed, `%x30-39` a range.
-/

namespace Abnf

/-- The base in which character codes are written. -/
inductive Base where
  /-- Base two. -/
  | binary
  /-- Base ten. -/
  | decimal
  /-- Base sixteen. -/
  | hexadecimal
deriving DecidableEq, Repr, Inhabited

namespace Base

/-- The base as a number. -/
def radix : Base → Nat
  | .binary => 2
  | .decimal => 10
  | .hexadecimal => 16

/-- The letter that announces the base after the percent sign. -/
def letter : Base → Char
  | .binary => 'b'
  | .decimal => 'd'
  | .hexadecimal => 'x'

/-- The base of a given radix. -/
def ofRadix? (n : Nat) : Option Base :=
  [Base.binary, .decimal, .hexadecimal].find? fun b => b.radix == n

@[simp] theorem ofRadix?_radix (b : Base) : ofRadix? b.radix = some b := by
  cases b <;> rfl

/-- A number in the base: lowercase digits, without leading zeros. -/
def numeral (b : Base) (n : Nat) : String := String.ofList (Nat.toDigits b.radix n)

/-- The percent sign and the letter of the base, in front of some codes. -/
def announce (b : Base) (codes : String) : String := "%" ++ String.singleton b.letter ++ codes

/-- The characters of a text by their codes, with points in between.  An empty text has no codes. -/
def encodeText (b : Base) (text : String) : Option String :=
  if text.isEmpty then none
  else some (b.announce (".".intercalate (text.toList.map fun c => b.numeral c.toNat)))

/-- The first character of a text by its code. -/
def encodeFirst (b : Base) (text : String) : Option String :=
  text.toList.head?.map fun c => b.announce (b.numeral c.toNat)

/-- An inclusive range of codes. -/
def encodeRange (b : Base) (first last : UInt32) : String :=
  b.announce (b.numeral first.toNat ++ "-" ++ b.numeral last.toNat)

end Base

end Abnf
