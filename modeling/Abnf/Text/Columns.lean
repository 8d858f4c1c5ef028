import Abnf.Text.Ligature

/-!
# Width on a terminal

How many columns a line takes where it is shown in columns of fixed width.  Most characters take one
or two columns, or none if they are shown together with the one in front of them.  Others merge with
what follows them into an emoji or a ligature, and a variation selector tells how the character in
front of it is to look.  So a line is measured from its end to its beginning, and each character by
how the part behind it begins.
-/

namespace Abnf.Text

/-- What a variation selector asks for. -/
inductive Selector where
  /-- An emoji. -/
  | emoji
  /-- Plain text. -/
  | plain
  /-- A quotation mark as wide as an East Asian character. -/
  | wideQuote
deriving DecidableEq, Repr

/-- What a character asks for, if it is a variation selector that matters. -/
def Selector.of? (code : Nat) : Option Selector :=
  if code = 0xFE0F then some .emoji
  else if code = 0xFE0E then some .plain
  else if code = 0xFE01 then some .wideQuote
  else none

/-- How a text begins, as far as the width of the character in front of it depends on that. -/
inductive Onset where
  /-- With nothing that matters. -/
  | other
  /-- With an emoji or the rest of one. -/
  | emoji (onset : EmojiOnset)
  /-- With letters that may merge with one in front. -/
  | letters (onset : LetterOnset)
deriving DecidableEq, Repr

namespace Onset

/-- How a text begins that begins with the given character. -/
def of (code : Nat) : Onset :=
  match EmojiOnset.of? code, LetterOnset.of? code with
  | some onset, _ => .emoji onset
  | none, some onset => .letters onset
  | none, none => .other

/-- What of the beginning of a text still matters in front of a variation selector. -/
def under (selector : Selector) : Onset → Onset
  | .letters .kiratE | .letters .kiratAi => .other
  | .letters onset => .letters onset
  | .emoji onset => if selector = .emoji ∧ onset.isRest then .emoji onset else .other
  | .other => .other

/-- What of the beginning of a text still matters behind a variation selector that did not apply to
the character in front of it. -/
def withoutSelector : Onset → Onset
  | .letters onset => .letters onset
  | _ => .other

/-- Whether a text that begins so is the rest of an emoji. -/
def isRest : Onset → Bool
  | .emoji onset => onset.isRest
  | _ => false

/-- The columns that a character adds in front of a text, and how the text begins then, if the
character belongs together with what follows. -/
def step? (onset : Onset) (code : Nat) : Option (Int × Onset) :=
  match onset with
  | .other => none
  | .emoji onset => (onset.step? code).map fun (n, next) => (n, .emoji next)
  | .letters onset =>
    (onset.step? code).map fun (n, next) => (n, (next.map Onset.letters).getD .other)

end Onset

/-- The columns that a character takes by itself. -/
def codeColumns (code : Nat) : Nat :=
  if code ≤ 0xA0 then 1
  else if isZeroWidth code then 0
  else if inRanges doubleWidthRanges code then 2
  else if code = 0x17D8 then 3
  else 1

/-- The part of a line that has been measured. -/
structure Measured where
  /-- Its columns. -/
  columns : Int
  /-- How it begins, behind a variation selector. -/
  onset : Onset
  /-- The variation selector that it begins with. -/
  selector : Option Selector
deriving DecidableEq

namespace Measured

/-- The end of a line. -/
def empty : Measured := ⟨0, .other, none⟩

/-- The same part, with more columns and a beginning of its own. -/
def add (m : Measured) (columns : Int) (onset : Onset) : Measured :=
  ⟨m.columns + columns, onset, none⟩

/-- Puts a character that a variation selector does not concern in front. -/
def putBare (m : Measured) (code : Nat) : Measured :=
  if code ≤ 0xA0 then m.add 1 .other
  else
    match Selector.of? code with
    | some selector => { m with onset := m.onset.under selector, selector := some selector }
    | none =>
      match m.onset.step? code with
      | some (columns, onset) => m.add columns onset
      | none => m.add (codeColumns code) (.of code)

/-- The columns and the beginning of a character to which a variation selector applies. -/
def selected? (selector : Selector) (onset : Onset) (code : Nat) : Option (Int × Onset) :=
  match selector with
  | .emoji =>
    if isSelectable code then some (if onset.isRest then 0 else 2, .emoji .emoji) else none
  | .plain =>
    if isSelectable code && isEmoji code && !isEnclosedIdeograph code then some (1, .other)
    else none
  | .wideQuote =>
    if inRanges [(0x2018, 0x2019), (0x201C, 0x201D)] code then some (2, .other) else none

/-- Puts a character in front. -/
def put (m : Measured) (c : Char) : Measured :=
  match m.selector with
  | none => m.putBare c.toNat
  | some selector =>
    match selected? selector m.onset c.toNat with
    | some (columns, onset) => m.add columns onset
    | none => { m with onset := m.onset.withoutSelector, selector := none }.putBare c.toNat

/-- Puts characters in front, the last one first. -/
def putAll (m : Measured) (cs : List Char) : Measured := cs.foldr (fun c m => m.put c) m

end Measured

/-- The columns that a line takes. -/
def columns (line : String) : Nat := (Measured.empty.putAll line.toList).columns.toNat

end Abnf.Text
