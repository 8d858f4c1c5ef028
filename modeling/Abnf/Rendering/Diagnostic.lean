import Abnf.Load

/-!
# Pointing at an error

When a grammar is rejected, the place of the error is shown in its text.  The place is given as a
number of bytes from the beginning.
-/

namespace Abnf

/-- An error in a text, with the place that is pointed at. -/
structure Diagnostic where
  /-- The message. -/
  message : String
  /-- The number of bytes before the place. -/
  offset : Nat
  /-- What may help. -/
  help : Option String
deriving Repr, Inhabited

namespace Diagnostic

/-- The code of all diagnostics. -/
def code : String := "abnfview::grammar"

/-- What is written at the place. -/
def label : String := "error here"

/-- The number of bytes that are pointed at. -/
def width : Nat := 1

/-- The number of bytes of some characters. -/
def bytes : List Char → Nat
  | [] => 0
  | c :: cs => c.utf8Size + bytes cs

@[simp] theorem bytes_append (as bs : List Char) : bytes (as ++ bs) = bytes as + bytes bs := by
  induction as with
  | nil => simp [bytes]
  | cons c cs ih => simp [bytes, ih, Nat.add_assoc]

/-- The lines of a text, without their ends.  A line ends with a line feed, before which a carriage
return may stand; the last line need not have an end.  The characters of the first line that stand
before the text are given in reverse. -/
def linesAfter (read : List Char) : List Char → List (List Char)
  | [] => if read.isEmpty then [] else [read.reverse]
  | c :: rest =>
    if c = '\n' then
      let line :=
        match read with
        | '\r' :: line => line
        | line => line
      line.reverse :: linesAfter [] rest
    else linesAfter (c :: read) rest

theorem linesAfter_cons {c : Char} (h : c ≠ '\n') (read rest : List Char) :
    linesAfter read (c :: rest) = linesAfter (c :: read) rest :=
  if_neg h

theorem linesAfter_append {line : List Char} (h : '\n' ∉ line) (read rest : List Char) :
    linesAfter read (line ++ rest) = linesAfter (line.reverse ++ read) rest := by
  induction line generalizing read with
  | nil => rfl
  | cons c line ih =>
    rw [List.mem_cons, not_or] at h
    rw [List.cons_append, linesAfter_cons (Ne.symm h.1), ih h.2]
    simp

@[simp] theorem linesAfter_return (read rest : List Char) :
    linesAfter ('\r' :: read) ('\n' :: rest) = read.reverse :: linesAfter [] rest := rfl

theorem linesAfter_feed {read : List Char} (h : read.head? ≠ some '\r') (rest : List Char) :
    linesAfter read ('\n' :: rest) = read.reverse :: linesAfter [] rest := by
  cases read with
  | nil => rfl
  | cons c read =>
    have hc : c ≠ '\r' := fun hc => h (congrArg some hc)
    simp [linesAfter, hc]

/-- The lines of a text, without their ends. -/
def lines (text : String) : List (List Char) := linesAfter [] text.toList

/-- The number of bytes before a line and column of a text.  Each line before counts with one line
feed as its end. -/
def offsetOf (content : String) (line column : Nat) : Nat :=
  let before := (lines content).take (line - 1)
  min (bytes (before.flatMap (· ++ ['\n'])) + (column - 1)) content.utf8ByteSize

/-- What may help with a message. -/
def helpFor (message : String) : Option String :=
  if message.startsWith "unknown variant" then
    some "the grammar parser emitted a node type this renderer does not know"
  else none

/-- The diagnostic for an error of loading a text. -/
def ofError (content : String) (error : LoadError) : Diagnostic :=
  match error with
  | .malformed line column detail => ⟨detail, offsetOf content line column, helpFor detail⟩
  | error => ⟨error.message, offsetOf content 1 1, helpFor error.message⟩

/-- What the diagnostic says. -/
def text (d : Diagnostic) : String := "invalid grammar: " ++ d.message

end Diagnostic

end Abnf
