import Abnf.Json.Cursor
import Abnf.Json.Value
import Abnf.Text.Echo

/-!
# What can be wrong with a text

The reasons for which a text is rejected, each with its message.  The first group concerns the
syntax of JSON, the second what a well-formed value should have been.
-/

namespace Abnf.Json

/-- What stood in the text where something else was expected. -/
inductive Found where
  /-- The value `null`. -/
  | null
  /-- A truth value. -/
  | bool (b : Bool)
  /-- A whole number. -/
  | int (n : Int)
  /-- A floating point number, by its text. -/
  | float (text : String)
  /-- A text. -/
  | str (s : String)
  /-- A list. -/
  | sequence
  /-- An object. -/
  | map
deriving DecidableEq

namespace Found

/-- How a message names what was found. -/
def text : Found → String
  | .null => "null"
  | .bool b => "boolean `" ++ (if b then "true" else "false") ++ "`"
  | .int n => "integer `" ++ toString n ++ "`"
  | .float text => "floating point `" ++ text ++ "`"
  | .str s => "string " ++ Text.echo s
  | .sequence => "sequence"
  | .map => "map"

end Found

/-- What a value counts as where another was expected. -/
def Value.found : Value → Found
  | .null => .null
  | .bool b => .bool b
  | .int n => .int n
  | .float text => .float text
  | .str s => .str s
  | .arr _ => .sequence
  | .obj _ => .map

/-- Why a text is rejected. -/
inductive Cause where
  /-- The text ends where a value should stand, or inside one. -/
  | endOfValue
  /-- The text ends inside a string literal. -/
  | endOfString
  /-- The text ends inside a list. -/
  | endOfList
  /-- The text ends inside an object. -/
  | endOfObject
  /-- No colon follows the name of a member. -/
  | expectedColon
  /-- An element is followed by neither a comma nor the end of the list. -/
  | expectedCommaOrBracket
  /-- A member is followed by neither a comma nor the end of the object. -/
  | expectedCommaOrBrace
  /-- A word is none of `null`, `true` and `false`. -/
  | expectedWord
  /-- No value begins here. -/
  | expectedValue
  /-- The name of a member is not a string literal. -/
  | keyNotString
  /-- A comma is followed by the end of the list or object. -/
  | trailingComma
  /-- Something follows where nothing should. -/
  | trailingCharacters
  /-- Too many lists and objects stand inside each other. -/
  | tooDeep
  /-- A backslash is followed by something that it does not escape. -/
  | badEscape
  /-- A number is not written as JSON demands. -/
  | badNumber
  /-- A number exceeds the largest finite one. -/
  | numberTooLarge
  /-- An escape stands for half of a surrogate pair, without its other half. -/
  | loneSurrogate
  /-- The first half of a surrogate pair is not followed by an escape. -/
  | unfinishedPair
  /-- A control character stands unescaped in a string literal. -/
  | controlCharacter
  /-- A value of one type stands where another was expected. -/
  | wrongType (found : Found) (expected : String)
  /-- A whole number lies outside what was expected. -/
  | wrongInteger (n : Int) (expected : String)
  /-- An object that should have named a choice does not have exactly one member. -/
  | wrongMap
  /-- A list of fields has the wrong number of them. -/
  | wrongLength (n : Nat) (expected : String)
  /-- A choice is none of the known ones. -/
  | unknownVariant (name : String) (known : List String)
  /-- A field that has no default is absent. -/
  | missingField (name : String)
  /-- A field occurs twice. -/
  | duplicateField (name : String)
  /-- A numeric base is none of two, ten and sixteen. -/
  | unsupportedBase (n : Nat)
  /-- An import is given neither by one source nor by a list of names. -/
  | badImport
deriving DecidableEq

namespace Cause

/-- The choices that were open, as a message lists them. -/
def choices (known : List String) : String :=
  let quoted := known.map fun name => "`" ++ name ++ "`"
  match quoted with
  | [a, b] => a ++ " or " ++ b
  | [a] => a
  | _ => "one of " ++ ", ".intercalate quoted

/-- The message for a cause. -/
def message : Cause → String
  | .endOfValue => "EOF while parsing a value"
  | .endOfString => "EOF while parsing a string"
  | .endOfList => "EOF while parsing a list"
  | .endOfObject => "EOF while parsing an object"
  | .expectedColon => "expected `:`"
  | .expectedCommaOrBracket => "expected `,` or `]`"
  | .expectedCommaOrBrace => "expected `,` or `\x7d`"
  | .expectedWord => "expected ident"
  | .expectedValue => "expected value"
  | .keyNotString => "key must be a string"
  | .trailingComma => "trailing comma"
  | .trailingCharacters => "trailing characters"
  | .tooDeep => "recursion limit exceeded"
  | .badEscape => "invalid escape"
  | .badNumber => "invalid number"
  | .numberTooLarge => "number out of range"
  | .loneSurrogate => "lone leading surrogate in hex escape"
  | .unfinishedPair => "unexpected end of hex escape"
  | .controlCharacter => "control character (\\u0000-\\u001F) found while parsing a string"
  | .wrongType found expected => "invalid type: " ++ found.text ++ ", expected " ++ expected
  | .wrongInteger n expected =>
    "invalid value: integer `" ++ toString n ++ "`, expected " ++ expected
  | .wrongMap => "invalid value: map, expected map with a single key"
  | .wrongLength n expected => "invalid length " ++ toString n ++ ", expected " ++ expected
  | .unknownVariant name known =>
    "unknown variant `" ++ name ++ "`, expected " ++ choices known
  | .missingField name => "missing field `" ++ name ++ "`"
  | .duplicateField name => "duplicate field `" ++ name ++ "`"
  | .unsupportedBase n =>
    "unsupported numeric base " ++ toString n ++ ", expected 2, 10 or 16"
  | .badImport => "data did not match any variant of untagged enum ImportEntry"

end Cause

/-- What a message says in front of a place. -/
def Position.mark : String := " at line "

/-- A place as a message gives it. -/
def Position.text (p : Position) : String :=
  Position.mark ++ toString p.line ++ " column " ++ toString p.column

/-- Why a text was rejected, and where, if it was rejected at a certain place. -/
structure Fault where
  /-- The reason. -/
  cause : Cause
  /-- The place. -/
  position : Option Position
deriving DecidableEq

/-- The full message of a fault. -/
def Fault.text (fault : Fault) : String :=
  fault.cause.message ++ (fault.position.map Position.text).getD ""

end Abnf.Json
