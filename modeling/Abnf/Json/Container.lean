import Abnf.Json.Literal
import Abnf.Json.Number

/-!
# Lists and objects

Reading a list or an object means to enter it, to read its elements or members one after the other,
and to leave it.  What is read in between is up to the reader of the contents, which gives up when
it refuses something; the place of the refusal is then the place where leaving the list or object
came to a halt.
-/

namespace Abnf.Json

namespace Reader

/-! ## Scalars -/

/-- Reads the rest of a word, character by character. -/
def word : List Char → Reader Unit
  | [] => pure ()
  | expected :: rest => do
    match ← peek with
    | none => failHere .endOfValue
    | some c =>
      if c = expected then
        skip 1
        word rest
      else failAhead .expectedWord

/-- Reads `null`, a truth value, a number or a string literal.  Nothing else is read. -/
def scalar : Reader Value := do
  match ← peek with
  | some 'n' =>
    word ['n', 'u', 'l', 'l']
    pure .null
  | some 't' =>
    word ['t', 'r', 'u', 'e']
    pure (.bool true)
  | some 'f' =>
    word ['f', 'a', 'l', 's', 'e']
    pure (.bool false)
  | some '"' =>
    let s ← literal
    pure (.str s)
  | some c => if c == '-' || c.isDigit then number else failAhead .expectedValue
  | none => failAhead .endOfValue

/-- Reads a scalar that has to make sense as something.  A value that does not, of whatever type,
is a failure where it ends; a list or an object is one where it begins. -/
def scalarAs (decode : Value → Except Cause α) : Reader α := do
  match ← peekToken with
  | some '[' => ofExceptHere (decode (.arr []))
  | some '{' => ofExceptHere (decode (.obj []))
  | _ =>
    let v ← scalar
    ofExceptHere (decode v)

/-! ## Separators -/

/-- Whether another element of a list follows.  `isFirst` tells that none has been read yet. -/
def nextElement (isFirst : Bool) : Reader (Option Unit) := do
  match ← peekToken with
  | none => failAhead .endOfList
  | some ']' => pure none
  | some c =>
    if isFirst then pure (some ())
    else if c = ',' then
      skip 1
      match ← peekToken with
      | none => failAhead .endOfValue
      | some ']' => failAhead .trailingComma
      | some _ => pure (some ())
    else failAhead .expectedCommaOrBracket

/-- The name of the next member of an object, if another one follows.  `isFirst` tells that none
has been read yet. -/
def nextMember (isFirst : Bool) : Reader (Option String) := do
  match ← peekToken with
  | none => failAhead .endOfObject
  | some '}' => pure none
  | some c =>
    if isFirst then
      if c = '"' then some <$> literal else failAhead .keyNotString
    else if c = ',' then
      skip 1
      match ← peekToken with
      | none => failAhead .endOfValue
      | some '"' => some <$> literal
      | some '}' => failAhead .trailingComma
      | some _ => failAhead .keyNotString
    else failAhead .expectedCommaOrBrace

/-- Reads the colon between the name of a member and its value. -/
def colon : Reader Unit := do
  match ← peekToken with
  | some ':' => skip 1
  | some _ => failAhead .expectedColon
  | none => failAhead .endOfObject

/-! ## Contents -/

/-- Reads as many parts as follow, and folds them into a state. -/
def many (next : Bool → Reader (Option κ)) (step : σ → κ → Reader σ) :
    Nat → Bool → σ → Reader σ
  | 0, _, _ => failHere .endOfValue
  | rounds + 1, isFirst, state => do
    match ← next isFirst with
    | none => pure state
    | some key =>
      let state ← step state key
      many next step rounds false state

/-- Reads the elements of a list. -/
def elements (rounds : Nat) (item : Reader α) : Reader (List α) :=
  List.reverse <$> many nextElement (fun read _ => (· :: read) <$> item) rounds true []

/-- Reads the members of an object and folds them into a state.  The step that is given the name
of a member also reads the colon after it. -/
def members (rounds : Nat) (step : σ → String → Reader σ) (state : σ) : Reader σ :=
  many nextMember step rounds true state

/-! ## Entering and leaving -/

/-- What comes of leaving a list or an object: where this came to a halt, and what was wrong there
if it was not left. -/
structure Leaving where
  /-- The cursor at the end. -/
  stop : Cursor
  /-- What is wrong, if anything is. -/
  trouble : Option (Cause × Position)

/-- Leaves a list: its closing bracket has to follow. -/
def leaveList (cursor : Cursor) : Leaving :=
  let here := cursor.skipBlanks
  match here.rest with
  | ']' :: _ => ⟨here.drop 1, none⟩
  | ',' :: _ =>
    let after := (here.drop 1).skipBlanks
    let cause := if after.rest.head? = some ']' then .trailingComma else .trailingCharacters
    ⟨after, some (cause, after.peekPosition)⟩
  | _ :: _ => ⟨here, some (.trailingCharacters, here.peekPosition)⟩
  | [] => ⟨here, some (.endOfList, here.peekPosition)⟩

/-- Leaves an object: its closing brace has to follow. -/
def leaveObject (cursor : Cursor) : Leaving :=
  let here := cursor.skipBlanks
  match here.rest with
  | '}' :: _ => ⟨here.drop 1, none⟩
  | ',' :: _ => ⟨here, some (.trailingComma, here.peekPosition)⟩
  | _ :: _ => ⟨here, some (.trailingCharacters, here.peekPosition)⟩
  | [] => ⟨here, some (.endOfObject, here.peekPosition)⟩

/-- Reads the contents of a list or an object, from its opening bracket on, and leaves it.  A
refusal of the contents gets its place here. -/
def within (leave : Cursor → Leaving) (contents : Reader α) : Reader α := fun cursor =>
  match contents (cursor.drop 1) with
  | .ok a next =>
    let leaving := leave next
    match leaving.trouble with
    | none => .ok a leaving.stop
    | some (cause, place) => .failed cause place
  | .failed cause place => .failed cause place
  | .refused cause stop => .failed cause (leave stop).stop.position

/-- Goes one level deeper, unless the limit is reached. -/
def deeper (limits : Limits) (r : Limits → Reader α) : Reader α :=
  match limits.levels with
  | 0 => failAhead .tooDeep
  | levels + 1 => r ⟨levels, limits.rounds⟩

/-- Reads a list whose contents are read by `contents`. -/
def list (limits : Limits) (contents : Limits → Reader α) : Reader α :=
  deeper limits fun inner => within leaveList (contents inner)

/-- Reads an object whose contents are read by `contents`. -/
def object (limits : Limits) (contents : Limits → Reader α) : Reader α :=
  deeper limits fun inner => within leaveObject (contents inner)

/-! ## Any value -/

/-- Reads any value, with at most the given number of lists and objects inside each other. -/
def valueWithin (rounds levels : Nat) : Reader Value := do
  match ← peekToken with
  | some '[' =>
    match levels with
    | 0 => failAhead .tooDeep
    | levels + 1 => within leaveList (.arr <$> elements rounds (valueWithin rounds levels))
  | some '{' =>
    match levels with
    | 0 => failAhead .tooDeep
    | levels + 1 =>
      let member (read : List (String × Value)) (name : String) : Reader _ := do
        colon
        let v ← valueWithin rounds levels
        pure ((name, v) :: read)
      within leaveObject ((fun read => .obj read.reverse) <$> members rounds member [])
  | _ => scalar

/-- Reads any value. -/
def value (limits : Limits) : Reader Value := valueWithin limits.rounds limits.levels

end Reader

end Abnf.Json
