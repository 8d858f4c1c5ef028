import Abnf.Json.Reader

/-!
# String literals

A string literal stands in double quotes.  A backslash escapes the character after it, or stands,
with `u` and four hexadecimal digits, for a code of UTF-16; a character beyond the first 65536 is
then written as a pair of surrogates.  Control characters have to be escaped.
-/

namespace Abnf.Json

namespace Escape

/-- The value of a hexadecimal digit of either case. -/
def hexValue (c : Char) : Option Nat :=
  if c.isDigit then some (c.toNat - 48)
  else if 'a' ≤ c ∧ c ≤ 'f' then some (c.toNat - 87)
  else if 'A' ≤ c ∧ c ≤ 'F' then some (c.toNat - 55)
  else none

/-- Whether at least so many bytes of text are there. -/
def hasBytes : Nat → List Char → Bool
  | 0, _ => true
  | _ + 1, [] => false
  | n + 1, c :: rest => hasBytes (n + 1 - c.utf8Size) rest

/-- The code that four hexadecimal digits give. -/
def hexCode (cs : List Char) : Except Cause Nat :=
  match (cs.take 4).mapM hexValue with
  | some [a, b, c, d] => .ok (((a * 16 + b) * 16 + c) * 16 + d)
  | _ => .error (if hasBytes 4 cs then .badEscape else .endOfString)

/-- Whether a code is the first half of a surrogate pair. -/
def isHigh (code : Nat) : Bool := 0xD800 ≤ code && code ≤ 0xDBFF

/-- Whether a code is the second half of a surrogate pair. -/
def isLow (code : Nat) : Bool := 0xDC00 ≤ code && code ≤ 0xDFFF

/-- The character for which a surrogate pair stands. -/
def paired (high low : Nat) : Char :=
  Char.ofNat ((high - 0xD800) * 0x400 + (low - 0xDC00) + 0x10000)

/-- The second half of a pair, from the text after the first one: the character and the number of
characters taken.  An error comes with the number of bytes after which it was seen. -/
def pairTail (high : Nat) : List Char → Except (Cause × Nat) (Char × Nat)
  | [] => .error (.endOfString, 0)
  | ['\\'] => .error (.endOfString, 1)
  | '\\' :: 'u' :: rest =>
    match hexCode rest with
    | .error cause => .error (cause, 6)
    | .ok low => if isLow low then .ok (paired high low, 6) else .error (.loneSurrogate, 6)
  | '\\' :: _ => .error (.unfinishedPair, 2)
  | _ => .error (.unfinishedPair, 1)

/-- The character that an escape stands for, from the text after the backslash, and the number of
characters that the escape takes there.  An error comes with the number of bytes after which it
was seen. -/
def decode : List Char → Except (Cause × Nat) (Char × Nat)
  | [] => .error (.endOfString, 0)
  | '"' :: _ => .ok ('"', 1)
  | '\\' :: _ => .ok ('\\', 1)
  | '/' :: _ => .ok ('/', 1)
  | 'b' :: _ => .ok ('\x08', 1)
  | 'f' :: _ => .ok ('\x0c', 1)
  | 'n' :: _ => .ok ('\n', 1)
  | 'r' :: _ => .ok ('\r', 1)
  | 't' :: _ => .ok ('\t', 1)
  | 'u' :: rest =>
    match hexCode rest with
    | .error cause => .error (cause, 5)
    | .ok code =>
      if isLow code then .error (.loneSurrogate, 5)
      else if isHigh code then
        match pairTail code (rest.drop 4) with
        | .error (cause, n) => .error (cause, 5 + n)
        | .ok (c, n) => .ok (c, 5 + n)
      else .ok (Char.ofNat code, 5)
  | _ => .error (.badEscape, 1)

/-- The number of characters that an escape takes after the backslash, where it is not asked what
they stand for. -/
def width : List Char → Except (Cause × Nat) Nat
  | [] => .error (.endOfString, 0)
  | c :: rest =>
    if c = 'u' then
      match hexCode rest with
      | .error cause => .error (cause, 5)
      | .ok _ => .ok 5
    else if ['"', '\\', '/', 'b', 'f', 'n', 'r', 't'].contains c then .ok 1
    else .error (.badEscape, 1)

end Escape

namespace Reader

/-- Reads the characters of a string literal up to the closing quote.  The characters read so far are
given in reverse, and the number of characters that belong to an escape which has been decoded. -/
def literalTail (read : List Char) (place : Position) : Nat → List Char → Outcome (List Char)
  | _, [] => .failed .endOfString place
  | decoded + 1, c :: rest => literalTail read (place.after c) decoded rest
  | 0, c :: rest =>
    if c = '"' then .ok read.reverse ⟨place.after c, rest⟩
    else if c = '\\' then
      match Escape.decode rest with
      | .error (cause, n) => .failed cause ((place.after c).ahead n rest)
      | .ok (x, n) => literalTail (x :: read) (place.after c) n rest
    else if c.toNat < 32 then .failed .controlCharacter (place.after c)
    else literalTail (c :: read) (place.after c) 0 rest

/-- Reads a string literal, from its opening quote on. -/
def literal : Reader String := do
  skip 1
  let cs ← fun cursor => literalTail [] cursor.position 0 cursor.rest
  pure (String.ofList cs)

/-- Passes over the characters of a string literal up to the closing quote.  The number of characters
is given that belong to an escape which has been looked at. -/
def passTail (place : Position) : Nat → List Char → Outcome Unit
  | _, [] => .failed .endOfString place
  | seen + 1, c :: rest => passTail (place.after c) seen rest
  | 0, c :: rest =>
    if c = '"' then .ok () ⟨place.after c, rest⟩
    else if c = '\\' then
      match Escape.width rest with
      | .error (cause, n) => .failed cause ((place.after c).ahead n rest)
      | .ok n => passTail (place.after c) n rest
    else if c.toNat < 32 then .failed .controlCharacter place
    else passTail (place.after c) 0 rest

/-- Passes over a string literal, from its opening quote on. -/
def passLiteral : Reader Unit := do
  skip 1
  fun cursor => passTail cursor.position 0 cursor.rest

end Reader

end Abnf.Json
