import Abnf.Text.Basic
import Abnf.Text.HiddenTable

/-!
# Echoed texts

A message that quotes what it found shows it in double quotes, and shows by their codes the
characters that a reader could not see.
-/

namespace Abnf.Text

/-- Whether a character has no glyph of its own. -/
def isHidden (c : Char) : Bool :=
  c.toNat < 32 || inRanges hiddenRanges c.toNat

/-- How a character is shown in a message. -/
def echoChar (c : Char) : String :=
  match c with
  | '\x00' => "\\0"
  | '\t' => "\\t"
  | '\n' => "\\n"
  | '\r' => "\\r"
  | '"' => "\\\""
  | '\\' => "\\\\"
  | c =>
    if isHidden c then "\\u\x7b" ++ String.ofList (Nat.toDigits 16 c.toNat) ++ "\x7d"
    else String.singleton c

/-- A text as a message shows it. -/
def echo (text : String) : String :=
  "\"" ++ String.join (text.toList.map echoChar) ++ "\""

end Abnf.Text
