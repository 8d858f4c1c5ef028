/-!
# Texts, character by character

Most texts that are written are obtained by replacing each character of another text, independently
of its neighbours: letter case, entities, quoting.  `expand` is that operation; it distributes over
concatenation.  The file also holds the few searches that the rest needs: comparing names without
regard to the case of ASCII letters, cutting a text at the last place where a mark occurs, and
finding a character in a table of ranges.
-/

namespace Abnf.Text

/-- Replaces every character of a text by the characters that `f` gives for it. -/
def expand (f : Char → List Char) (text : String) : String :=
  String.ofList (text.toList.flatMap f)

@[simp] theorem toList_expand (f : Char → List Char) (text : String) :
    (expand f text).toList = text.toList.flatMap f := by
  simp [expand]

@[simp] theorem expand_append (f : Char → List Char) (a b : String) :
    expand f (a ++ b) = expand f a ++ expand f b := by
  simp [expand]

/-- Replaces every occurrence of one character by a text. -/
def replaceChar (old : Char) (new : String) (text : String) : String :=
  expand (fun c => if c = old then new.toList else [c]) text

/-- Whether a character code lies in one of the inclusive ranges. -/
def inRanges (ranges : List (Nat × Nat)) (code : Nat) : Bool :=
  ranges.any fun range => range.1 ≤ code && code ≤ range.2

/-- The same name but for the case of its ASCII letters. -/
def sameName (a b : String) : Bool :=
  a.toList.map Char.toLower == b.toList.map Char.toLower

@[simp] theorem sameName_refl (a : String) : sameName a a = true := by
  simp [sameName]

/-- What stands before the last place where `mark` occurs, if it occurs at all. -/
def beforeLast (mark : List Char) : List Char → Option (List Char)
  | [] => none
  | c :: rest =>
    match beforeLast mark rest with
    | some kept => some (c :: kept)
    | none => if mark.isPrefixOf (c :: rest) then some [] else none

/-- Cuts a text at the last place where `mark` occurs; without such a place it stays whole. -/
def cutAtLast (mark text : String) : String :=
  ((beforeLast mark.toList text.toList).map String.ofList).getD text

end Abnf.Text
