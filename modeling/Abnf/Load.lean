import Abnf.Dependencies
import Abnf.Grammar.Decode

/-!
# Loading files

A grammar is loaded from a file that has to be there; the dependencies of a grammar are optional, so
that a file that is missing, unreadable or malformed counts as no dependencies at all.  The file has
been looked at before: what came of it is a `Reading`.
-/

namespace Abnf

/-- What came of looking at a file. -/
inductive Reading where
  /-- Its text. -/
  | text (content : String)
  /-- There is no such file. -/
  | missing
  /-- There is something, but it has no text. -/
  | unreadable (reason : String)
deriving Repr, Inhabited

/-- Why something could not be loaded. -/
inductive LoadError where
  /-- There is no such file. -/
  | notFound (path : String)
  /-- The file could not be read. -/
  | unreadable (path reason : String)
  /-- The text of the file is rejected. -/
  | malformed (line column : Nat) (detail : String)
deriving DecidableEq, Repr, Inhabited

namespace LoadError

/-- The full message of an error. -/
def message : LoadError → String
  | .notFound path => "grammar not found: '" ++ path ++ "'"
  | .unreadable path reason => "failed to read '" ++ path ++ "': " ++ reason
  | .malformed line column detail =>
    "invalid grammar at " ++ toString line ++ ":" ++ toString column ++ ": " ++ detail

/-- The error for a rejected text.  Its detail is the message of the fault up to the place. -/
def ofFault (fault : Json.Fault) : LoadError :=
  let place := fault.position.getD ⟨0, 0⟩
  .malformed place.line place.column (Text.cutAtLast Json.Position.mark fault.text)

end LoadError

/-- The grammar that a text describes. -/
def Grammar.ofText (text : String) : Except LoadError Grammar :=
  (Grammar.parse text).mapError LoadError.ofFault

/-- The dependencies that a text describes. -/
def Dependencies.ofText (text : String) : Except LoadError Dependencies :=
  (Dependencies.parse text).mapError LoadError.ofFault

/-- The grammar in a file. -/
def Grammar.load (path : String) : Reading → Except LoadError Grammar
  | .text content => Grammar.ofText content
  | .missing => .error (.notFound path)
  | .unreadable reason => .error (.unreadable path reason)

/-- The dependencies in a file, none if it does not give any. -/
def Dependencies.load : Reading → Dependencies
  | .text content =>
    match Dependencies.ofText content with
    | .ok d => d
    | .error _ => Dependencies.none
  | .missing | .unreadable _ => Dependencies.none

end Abnf
