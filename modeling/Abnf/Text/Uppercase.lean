import Abnf.Text.Basic
import Abnf.Text.CaseTable

/-!
# Uppercase

Rule names are case-insensitive, and where names serve as keys they are kept in uppercase.  The
uppercase of a text is taken character by character; a character may become several.
-/

namespace Abnf.Text

/-- The uppercase of one character: one character, or several (`ß` becomes `SS`). -/
def uppercaseChar (c : Char) : List Char :=
  if c.toNat < 128 then [c.toUpper]
  else match caseExpansions.lookup c.toNat with
    | some codes => codes.map Char.ofNat
    | none =>
      match caseRuns.find? (·.covers c.toNat) with
      | some run => [Char.ofNat (run.apply c.toNat)]
      | none => [c]

/-- The uppercase of a text. -/
def uppercase (text : String) : String := expand uppercaseChar text

@[simp] theorem uppercase_append (a b : String) :
    uppercase (a ++ b) = uppercase a ++ uppercase b :=
  expand_append ..

theorem uppercaseChar_ascii {c : Char} (h : c.toNat < 128) : uppercaseChar c = [c.toUpper] := by
  simp [uppercaseChar, h]

end Abnf.Text
