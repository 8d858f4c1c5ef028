import Abnf.Json.Fault

/-!
# Readers

A reader takes a cursor and either moves it forward and gives a value, or rejects the text.  A text
can be rejected in two ways.  It *fails* at a definite place when the reader sees there that it
cannot go on.  It is *refused* when what has been read is well formed but is not what was asked for;
such a refusal has no place of its own yet, and the list or object around it gives it one.
-/

namespace Abnf.Json

/-- The outcome of reading. -/
inductive Outcome (α : Type) where
  /-- A value, and where reading goes on. -/
  | ok (value : α) (next : Cursor)
  /-- A failure at a place. -/
  | failed (cause : Cause) (place : Position)
  /-- A refusal, with the cursor where reading had stopped. -/
  | refused (cause : Cause) (stop : Cursor)

/-- A reader of values of some type. -/
def Reader (α : Type) := Cursor → Outcome α

namespace Reader

/-- Goes on with a second reader after a first one has succeeded. -/
def andThen (r : Reader α) (f : α → Reader β) : Reader β := fun cursor =>
  match r cursor with
  | .ok a next => f a next
  | .failed cause place => .failed cause place
  | .refused cause stop => .refused cause stop

instance : Monad Reader where
  pure a := fun cursor => .ok a cursor
  bind := andThen

@[simp] theorem pure_apply (a : α) (cursor : Cursor) : (pure a : Reader α) cursor = .ok a cursor :=
  rfl

@[simp] theorem bind_apply (r : Reader α) (f : α → Reader β) (cursor : Cursor) :
    (r >>= f) cursor = match r cursor with
      | .ok a next => f a next
      | .failed cause place => .failed cause place
      | .refused cause stop => .refused cause stop :=
  rfl

/-- Fails where the cursor stands: what is wrong lies before it. -/
def failHere (cause : Cause) : Reader α := fun cursor => .failed cause cursor.position

/-- Fails one byte further on: what is wrong is the next byte. -/
def failAhead (cause : Cause) : Reader α := fun cursor => .failed cause cursor.peekPosition

/-- Refuses what has been read. -/
def refuse (cause : Cause) : Reader α := fun cursor => .refused cause cursor

/-- The next character, which is left unread. -/
def peek : Reader (Option Char) := fun cursor => .ok cursor.rest.head? cursor

/-- Moves past some characters. -/
def skip (n : Nat) : Reader Unit := fun cursor => .ok () (cursor.drop n)

/-- Moves to the next token. -/
def skipBlanks : Reader Unit := fun cursor => .ok () cursor.skipBlanks

/-- Moves to the next token and looks at its first character. -/
def peekToken : Reader (Option Char) := do
  skipBlanks
  peek

/-- Gives the result of a decision, and refuses the text if it went wrong. -/
def ofExcept : Except Cause α → Reader α
  | .ok a => pure a
  | .error cause => refuse cause

/-- Gives the result of a decision, and fails where the cursor stands if it went wrong. -/
def ofExceptHere : Except Cause α → Reader α
  | .ok a => pure a
  | .error cause => failHere cause

/-- Reads a whole text: the value may be followed by blanks only. -/
def run (r : Reader α) (text : String) : Except Fault α :=
  match r (Cursor.start text) with
  | .ok a next =>
    let stop := next.skipBlanks
    if stop.rest.isEmpty then .ok a else .error ⟨.trailingCharacters, some stop.peekPosition⟩
  | .failed cause place => .error ⟨cause, some place⟩
  | .refused cause _ => .error ⟨cause, none⟩

end Reader

/-- How far a reader may go. -/
structure Limits where
  /-- How many lists and objects may still be entered. -/
  levels : Nat
  /-- A bound on the number of elements of a list and members of an object.  It exceeds the length
  of the text, so that no text reaches it. -/
  rounds : Nat

/-- The limits for a text: at most 127 lists and objects inside each other. -/
def Limits.of (text : String) : Limits := ⟨127, text.length + 1⟩

/-- Reads a whole text within the limits for it. -/
def readText (r : Limits → Reader α) (text : String) : Except Fault α :=
  (r (Limits.of text)).run text

end Abnf.Json
