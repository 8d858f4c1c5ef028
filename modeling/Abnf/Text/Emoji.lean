import Abnf.Text.Basic
import Abnf.Text.EmojiTable

/-!
# Emoji sequences

Several characters may be shown as one emoji: an emoji with a skin tone, emoji that are joined, a
flag that is spelled by regional indicators or by tags, a keycap.  A text is measured from its end
to its beginning, and so its emoji are recognised from behind: an `EmojiOnset` tells how the part
that has been measured begins, and `EmojiOnset.step?` what one more character in front of it adds.
-/

namespace Abnf.Text

/-! ## Characters -/

/-- The code of the zero-width joiner. -/
def joiner : Nat := 0x200D

/-- Whether a character is shown as an emoji unless plain text is asked for. -/
def isEmoji (code : Nat) : Bool := inRanges emojiRanges code

/-- Whether a character's appearance as an emoji or as plain text can be asked for. -/
def isSelectable (code : Nat) : Bool := inRanges selectableRanges code

/-- Whether a character can take a skin tone. -/
def isToneBase (code : Nat) : Bool := inRanges toneBaseRanges code

/-- Whether a character belongs to the enclosed ideographs, which stay wide as plain text. -/
def isEnclosedIdeograph (code : Nat) : Bool := inRanges [(0x1F200, 0x1F2FF)] code

/-- Whether a character is a regional indicator: two of them spell a flag. -/
def isRegion (code : Nat) : Bool := inRanges [(0x1F1E6, 0x1F1FF)] code

/-- Whether a character is a skin tone. -/
def isTone (code : Nat) : Bool := inRanges [(0x1F3FB, 0x1F3FF)] code

/-- Whether a character is a letter among the tags. -/
def isTagLetter (code : Nat) : Bool := inRanges [(0xE0061, 0xE007A)] code

/-- Whether a character is a digit among the tags. -/
def isTagDigit (code : Nat) : Bool := inRanges [(0xE0030, 0xE0039)] code

/-- The code of the tag that ends a sequence of tags. -/
def lastTag : Nat := 0xE007F

/-- The code of the flag that tags are put on. -/
def taggedFlag : Nat := 0x1F3F4

/-- The code of the frame of a keycap. -/
def keycapFrame : Nat := 0x20E3

/-! ## Sequences -/

/-- How a text begins that begins with an emoji or with the rest of one. -/
inductive EmojiOnset where
  /-- With an emoji. -/
  | emoji
  /-- With a skin tone. -/
  | tone
  /-- With one regional indicator. -/
  | region
  /-- With several regional indicators. -/
  | regions
  /-- With a joiner that an emoji follows. -/
  | joined
  /-- With the frame of a keycap that a joined emoji follows. -/
  | joinedKeycap
  /-- With one regional indicator that a joined emoji follows. -/
  | joinedRegion
  /-- With an even number of regional indicators that a joined emoji follows. -/
  | joinedEvenRegions
  /-- With an odd number of regional indicators, three or more, that a joined emoji follows. -/
  | joinedOddRegions
  /-- With tags, up to the last one, that a joined emoji follows: so many digits, and then so many
  letters. -/
  | joinedTags (letters digits : Nat)
deriving DecidableEq, Repr

namespace EmojiOnset

/-- How a text begins that begins with the given character, if that is an emoji or a part of
one. -/
def of? (code : Nat) : Option EmojiOnset :=
  if isRegion code then some .region
  else if isTone code then some .tone
  else if isEmoji code then some .emoji
  else none

/-- Whether emoji in front of a joiner are joined to a text that begins so. -/
def isJoinable : EmojiOnset → Bool
  | .emoji | .tone | .regions | .joinedEvenRegions | .joinedOddRegions => true
  | _ => false

/-- Whether a text that begins so is the rest of an emoji that has been measured already. -/
def isRest : EmojiOnset → Bool
  | .joined | .joinedKeycap => true
  | _ => false

/-- What a character in front of a joined emoji adds. -/
def joinedStep? (code : Nat) : Option (Int × EmojiOnset) :=
  if code = keycapFrame then some (0, .joinedKeycap)
  else if isRegion code then some (1, .joinedRegion)
  else if isTone code then some (0, .tone)
  else if code = lastTag then some (0, .joinedTags 0 0)
  else if isEmoji code then some (0, .emoji)
  else none

/-- What a character in front of tags adds.  Six letters at most stand together, and three digits
in front of four letters at most; the flag takes three letters at least, or three digits. -/
def tagStep? (letters digits code : Nat) : Option (Int × EmojiOnset) :=
  if isTagLetter code ∧ digits = 0 ∧ letters < 6 then some (0, .joinedTags (letters + 1) 0)
  else if isTagDigit code ∧ letters ≤ 4 ∧ digits < 3 then some (0, .joinedTags letters (digits + 1))
  else if code = taggedFlag ∧ (digits = 3 ∨ digits = 0 ∧ 3 ≤ letters) then some (0, .emoji)
  else none

/-- The columns that a character adds in front of a text, and how the text begins then, if the
character belongs to the same sequence. -/
def step? (onset : EmojiOnset) (code : Nat) : Option (Int × EmojiOnset) :=
  if code = joiner then if onset.isJoinable then some (0, .joined) else none
  else
    match onset with
    | .tone => if isToneBase code then some (0, .emoji) else none
    | .region | .regions => if isRegion code then some (1, .regions) else none
    | .joined => joinedStep? code
    | .joinedRegion | .joinedOddRegions =>
      if isRegion code then some (-1, .joinedEvenRegions) else none
    | .joinedEvenRegions => if isRegion code then some (3, .joinedOddRegions) else none
    | .joinedTags letters digits => tagStep? letters digits code
    | .emoji | .joinedKeycap => none

end EmojiOnset

end Abnf.Text
