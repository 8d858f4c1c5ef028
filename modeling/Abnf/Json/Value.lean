import Abnf.Text.Quoted

/-!
# JSON values

The values of JSON, and the two ways in which they are written: compact, without any blanks, and
indented.  The members of an object keep their order and may repeat a name.  A number with a
fraction or an exponent is kept as the text of its value, since nothing computes with it.
-/

namespace Abnf.Json

/-- A JSON value. -/
inductive Value where
  /-- The value `null`. -/
  | null
  /-- One of the two truth values. -/
  | bool (b : Bool)
  /-- A whole number. -/
  | int (n : Int)
  /-- A floating point number, by its text. -/
  | float (text : String)
  /-- A text. -/
  | str (s : String)
  /-- A list of values. -/
  | arr (items : List Value)
  /-- Named values, in order. -/
  | obj (members : List (String × Value))
deriving Inhabited, Repr

namespace Value

/-- Values side by side, separated by commas and enclosed in brackets of some kind. -/
def enclose (opening closing : String) (parts : List String) : String :=
  opening ++ ",".intercalate parts ++ closing

mutual

/-- The compact text of a value. -/
def compact : Value → String
  | .null => "null"
  | .bool true => "true"
  | .bool false => "false"
  | .int n => toString n
  | .float text => text
  | .str s => Text.quote s
  | .arr items => enclose "[" "]" (compactItems items)
  | .obj members => enclose "\x7b" "\x7d" (compactMembers members)

/-- The compact texts of the items of a list. -/
def compactItems : List Value → List String
  | [] => []
  | v :: rest => v.compact :: compactItems rest

/-- The compact texts of the members of an object. -/
def compactMembers : List (String × Value) → List String
  | [] => []
  | (name, v) :: rest => (Text.quote name ++ ":" ++ v.compact) :: compactMembers rest

end

@[simp] theorem compactItems_eq (items : List Value) :
    compactItems items = items.map compact := by
  induction items with
  | nil => rfl
  | cons v rest ih => simp [compactItems, ih]

@[simp] theorem compactMembers_eq (members : List (String × Value)) :
    compactMembers members = members.map fun m => Text.quote m.1 ++ ":" ++ m.2.compact := by
  induction members with
  | nil => rfl
  | cons m rest ih => simp [compactMembers, ih]

/-- A new line, indented to the given depth. -/
def newline (depth : Nat) : String := "\n" ++ String.ofList (List.replicate (2 * depth) ' ')

/-- Parts on lines of their own, one level deeper than the brackets around them.  Without parts the
brackets stand side by side. -/
def encloseIndented (depth : Nat) (opening closing : String) (parts : List String) : String :=
  if parts.isEmpty then opening ++ closing
  else opening ++ newline (depth + 1) ++ ("," ++ newline (depth + 1)).intercalate parts ++
    newline depth ++ closing

mutual

/-- The indented text of a value that stands at the given depth. -/
def indentedAt (depth : Nat) : Value → String
  | .arr items => encloseIndented depth "[" "]" (indentedItems (depth + 1) items)
  | .obj members => encloseIndented depth "\x7b" "\x7d" (indentedMembers (depth + 1) members)
  | .null => "null"
  | .bool true => "true"
  | .bool false => "false"
  | .int n => toString n
  | .float text => text
  | .str s => Text.quote s

/-- The indented texts of the items of a list. -/
def indentedItems (depth : Nat) : List Value → List String
  | [] => []
  | v :: rest => v.indentedAt depth :: indentedItems depth rest

/-- The indented texts of the members of an object. -/
def indentedMembers (depth : Nat) : List (String × Value) → List String
  | [] => []
  | (name, v) :: rest =>
    (Text.quote name ++ ": " ++ v.indentedAt depth) :: indentedMembers depth rest

end

/-- The indented text of a value. -/
def indented (v : Value) : String := v.indentedAt 0

/-- A value that may be absent, written as `null` when it is. -/
def ofOption (f : α → Value) : Option α → Value
  | none => .null
  | some a => f a

end Value

end Abnf.Json
