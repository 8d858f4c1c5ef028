/-!
# Places in a text

A reader moves through a text from front to back.  Where it stands is told by line and column, as
in its messages: lines are separated by line feeds and counted from one, and the column is the
number of bytes, in UTF-8, since the last line feed.
-/

namespace Abnf.Json

/-- A place in a text. -/
structure Position where
  /-- One more than the number of line feeds before the place. -/
  line : Nat
  /-- The number of bytes between the last line feed and the place. -/
  column : Nat
deriving DecidableEq, Repr

namespace Position

/-- The beginning of a text. -/
def start : Position := ⟨1, 0⟩

/-- The place after a character. -/
def after (p : Position) (c : Char) : Position :=
  if c = '\n' then ⟨p.line + 1, 0⟩ else ⟨p.line, p.column + c.utf8Size⟩

/-- The place after some characters. -/
def afterAll (p : Position) (cs : List Char) : Position := cs.foldl after p

@[simp] theorem afterAll_nil (p : Position) : p.afterAll [] = p := rfl

@[simp] theorem afterAll_cons (p : Position) (c : Char) (cs : List Char) :
    p.afterAll (c :: cs) = (p.after c).afterAll cs := rfl

@[simp] theorem afterAll_append (p : Position) (as bs : List Char) :
    p.afterAll (as ++ bs) = (p.afterAll as).afterAll bs := by
  simp [afterAll]

/-- The place a number of bytes further on, or the end of the text if that is nearer.  It may lie
inside a character. -/
def ahead (p : Position) : Nat → List Char → Position
  | _, [] => p
  | bytes, c :: rest =>
    if bytes < c.utf8Size then ⟨p.line, p.column + bytes⟩
    else ahead (p.after c) (bytes - c.utf8Size) rest

@[simp] theorem ahead_nil (p : Position) (bytes : Nat) : p.ahead bytes [] = p := by
  simp [ahead]

end Position

/-- A place in a text together with what is left of the text there. -/
structure Cursor where
  /-- The place. -/
  position : Position
  /-- The characters that have not been read. -/
  rest : List Char

namespace Cursor

/-- The cursor before the first character of a text. -/
def start (text : String) : Cursor := ⟨.start, text.toList⟩

/-- Whether JSON allows a character between tokens. -/
def isBlank (c : Char) : Bool := c == ' ' || c == '\n' || c == '\t' || c == '\r'

/-- The cursor after the given number of characters. -/
def drop (cursor : Cursor) (n : Nat) : Cursor :=
  ⟨cursor.position.afterAll (cursor.rest.take n), cursor.rest.drop n⟩

/-- The cursor after the longest run of characters that satisfy `p`. -/
def dropWhile (cursor : Cursor) (p : Char → Bool) : Cursor :=
  ⟨cursor.position.afterAll (cursor.rest.takeWhile p), cursor.rest.dropWhile p⟩

/-- The cursor before the next token. -/
def skipBlanks (cursor : Cursor) : Cursor := cursor.dropWhile isBlank

/-- The place one byte further on. -/
def peekPosition (cursor : Cursor) : Position := cursor.position.ahead 1 cursor.rest

end Cursor

end Abnf.Json
