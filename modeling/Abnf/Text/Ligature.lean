import Abnf.Text.Emoji
import Abnf.Text.WidthTable

/-!
# Ligatures

In some scripts neighbouring letters merge into one sign, which takes fewer columns than the letters
do alone; for some of them a joiner has to stand between.  A text is measured from its end to its
beginning: a `LetterOnset` tells with which letters the part that has been measured begins, and
`LetterOnset.step?` what one more character in front of it adds.
-/

namespace Abnf.Text

/-- Whether a character takes no column. -/
def isZeroWidth (code : Nat) : Bool := inRanges zeroWidthRanges code

/-! ## Letters -/

/-- Whether a character is an Arabic alef, of any kind. -/
def isAlef (code : Nat) : Bool :=
  inRanges [(0x622, 0x623), (0x625, 0x625), (0x627, 0x627), (0x671, 0x673), (0x675, 0x675),
    (0x773, 0x774), (0x870, 0x882)] code

/-- Whether a character is an Arabic lam, of any kind. -/
def isLam (code : Nat) : Bool :=
  inRanges [(0x644, 0x644), (0x6B5, 0x6B8), (0x76A, 0x76A), (0x8A6, 0x8A6), (0x8C7, 0x8C7)] code

/-- Whether Arabic letters join across a character as if it were not there. -/
def isJoinedAcross (code : Nat) : Bool := isZeroWidth code && !inRanges barrierRanges code

/-- Whether a character is a Tifinagh consonant. -/
def isTifinagh (code : Nat) : Bool := inRanges [(0x2D31, 0x2D65), (0x2D6F, 0x2D6F)] code

/-- Whether a character is a Khmer letter that can stand below another one. -/
def isKhmerSubjoined (code : Nat) : Bool :=
  inRanges [(0x1780, 0x1782), (0x1784, 0x1787), (0x1789, 0x178C), (0x178E, 0x1793),
    (0x1795, 0x1798), (0x179B, 0x179D), (0x17A0, 0x17A0), (0x17A2, 0x17A2), (0x17A7, 0x17A7),
    (0x17AB, 0x17AC), (0x17AF, 0x17AF)] code

/-- Whether letters merge across a character as if it were not there. -/
def isMergedAcross (code : Nat) : Bool :=
  inRanges [(0x34F, 0x34F), (0x17B4, 0x17B5), (0x180B, 0x180D), (0x180F, 0x180F),
    (0xFE00, 0xFE0F), (0xE0100, 0xE01EF)] code

/-! ## Sequences -/

/-- How a text begins that begins with letters with which the one in front may merge.  Of some
letters it is told whether a joiner stands in front of them. -/
inductive LetterOnset where
  /-- With an Arabic alef. -/
  | alef
  /-- With the Hebrew lamed. -/
  | lamed (joined : Bool)
  /-- With the Buginese ya. -/
  | buginese (joined : Bool)
  /-- With the Buginese sign for the vowel i, joined to ya. -/
  | bugineseVowel
  /-- With a Tifinagh consonant. -/
  | tifinagh (joined : Bool)
  /-- With the sign that joins two Tifinagh consonants, and the second of them. -/
  | tifinaghPair
  /-- With the second half of a Lisu tone. -/
  | lisuTone
  /-- With the Old Turkic letter i of the Orkhon script. -/
  | orkhon (joined : Bool)
  /-- With a Khmer letter that can stand below another one. -/
  | khmer
  /-- With the Kirat Rai vowel sign e. -/
  | kiratE
  /-- With the Kirat Rai vowel sign ai. -/
  | kiratAi
deriving DecidableEq, Repr

namespace LetterOnset

/-- How a text begins that begins with the given character, if that may merge with one in front. -/
def of? (code : Nat) : Option LetterOnset :=
  if isAlef code then some .alef
  else if code = 0x5DC then some (.lamed false)
  else if code = 0x1A10 then some (.buginese false)
  else if isTifinagh code then some (.tifinagh false)
  else if code = 0xA4FC ∨ code = 0xA4FD then some .lisuTone
  else if code = 0x10C03 then some (.orkhon false)
  else if isKhmerSubjoined code then some .khmer
  else if code = 0x16D67 then some .kiratE
  else if code = 0x16D68 then some .kiratAi
  else none

/-- Whether the letters still merge with one in front if a character of no meaning for them stands
between. -/
def isLasting : LetterOnset → Bool
  | .alef | .kiratE | .kiratAi => false
  | _ => true

/-- How a text begins in front of which a joiner has been put. -/
def join : LetterOnset → LetterOnset
  | .lamed _ => .lamed true
  | .buginese _ => .buginese true
  | .tifinagh _ => .tifinagh true
  | .orkhon _ => .orkhon true
  | onset => onset

/-- The columns that a letter adds in front of a text, and how the text begins then, if the letter
merges with those that follow. -/
def merge? (onset : LetterOnset) (code : Nat) : Option (Int × Option LetterOnset) :=
  match onset with
  | .alef =>
    if isLam code then some (0, none)
    else if isJoinedAcross code then some (0, some .alef)
    else none
  | .lamed true => if code = 0x5D0 then some (0, none) else none
  | .khmer => if code = 0x17D2 then some (-1, none) else none
  | .buginese true => if code = 0x1A17 then some (0, some .bugineseVowel) else none
  | .bugineseVowel => if code = 0x1A15 then some (0, none) else none
  | .tifinagh joined =>
    if code = 0x2D7F then some (1, some .tifinaghPair)
    else if joined ∧ isTifinagh code then some (0, none)
    else none
  | .tifinaghPair => if isTifinagh code then some (-1, none) else none
  | .lisuTone => if 0xA4F8 ≤ code ∧ code ≤ 0xA4FB then some (0, none) else none
  | .orkhon true => if code = 0x10C32 then some (0, none) else none
  | .kiratE =>
    if code = 0x16D63 ∨ code = 0x16D69 then some (0, none)
    else if code = 0x16D67 then some (0, some .kiratAi)
    else if code = 0x16D68 then some (1, some .kiratE)
    else none
  | .kiratAi => if code = 0x16D63 then some (0, none) else none
  | .lamed false | .buginese false | .orkhon false => none

/-- The columns that a character adds in front of a text, and how the text begins then, if the
character merges with the letters that follow or leaves them ready to. -/
def step? (onset : LetterOnset) (code : Nat) : Option (Int × Option LetterOnset) :=
  if onset.isLasting && code == joiner then some (0, some onset.join)
  else if onset.isLasting && isMergedAcross code then some (0, some onset)
  else onset.merge? code

end LetterOnset

end Abnf.Text
