import Abnf.Text.Basic

/-!
# Quoted texts

A text as a JSON string literal: in double quotes, with quotes, backslashes and control characters
escaped and everything else as it is.
-/

namespace Abnf.Text

/-- The lowercase hexadecimal digit of a number below sixteen. -/
def hexDigit (n : Nat) : Char := Nat.digitChar n

/-- How a character is written inside a string literal. -/
def literalChar (c : Char) : List Char :=
  if c = '"' then ['\\', '"']
  else if c = '\\' then ['\\', '\\']
  else if c.toNat = 8 then ['\\', 'b']
  else if c.toNat = 9 then ['\\', 't']
  else if c.toNat = 10 then ['\\', 'n']
  else if c.toNat = 12 then ['\\', 'f']
  else if c.toNat = 13 then ['\\', 'r']
  else if c.toNat < 32 then
    ['\\', 'u', '0', '0', hexDigit (c.toNat / 16), hexDigit (c.toNat % 16)]
  else [c]

/-- A text as a string literal. -/
def quote (text : String) : String := "\"" ++ expand literalChar text ++ "\""

theorem toList_quote (text : String) :
    (quote text).toList = '"' :: (text.toList.flatMap literalChar ++ ['"']) := by
  simp [quote]

/-- A text as a string literal that can stand inside a `script` element: `<` is escaped too, so
that no closing tag can occur in it. -/
def quoteForScript (text : String) : String := replaceChar '<' "\\u003c" (quote text)

end Abnf.Text
