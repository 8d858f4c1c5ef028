import Abnf.Text.AlphanumericTable
import Abnf.Text.Basic

/-!
# Classes of characters

Letters and digits of all scripts, and the characters that are blank.
-/

namespace Abnf.Text

/-- Whether a character is a letter or a digit. -/
def isAlphanumeric (c : Char) : Bool := c.isAlphanum || inRanges alphanumericRanges c.toNat

/-- Whether a character is blank: a space of any width, or an end of a line, a page or a
paragraph. -/
def isSpace (c : Char) : Bool :=
  inRanges [(0x9, 0xD), (0x20, 0x20), (0x85, 0x85), (0xA0, 0xA0), (0x1680, 0x1680),
    (0x2000, 0x200A), (0x2028, 0x2029), (0x202F, 0x202F), (0x205F, 0x205F), (0x3000, 0x3000)]
    c.toNat

/-- A text without the blanks at its ends. -/
def trimmed (text : List Char) : List Char :=
  ((text.dropWhile isSpace).reverse.dropWhile isSpace).reverse

end Abnf.Text
