import Abnf.Grammar.Basic
import Abnf.Node.Decode

/-!
# Reading a grammar

A grammar is a record of two fields: `defs`, an object of nodes by their keys, and `refs`, a list of
records with the name of a rule each, which may be absent.
-/

namespace Abnf

open Json (Value Cause Reader Limits Field Record)

/-- Reads an object as a dictionary.  A repeated key keeps its place and takes the last value. -/
def Dict.read (item : Limits → Reader α) (limits : Limits) : Reader (Dict α) := do
  match ← Reader.peekToken with
  | some '{' =>
    let member (inner : Limits) (d : Dict α) (name : String) : Reader (Dict α) := do
      Reader.colon
      let a ← item inner
      pure (d.insert name a)
    Reader.object limits fun inner => Reader.members inner.rounds (member inner) Dict.empty
  | _ => Reader.scalarAs fun v => .error (.wrongType v.found "a map")

namespace Grammar

/-- A listed reference: the name of a rule. -/
def referenceRecord : Record (Option String) String where
  title := "struct RuleRef"
  fields :=
    [{ name := "name"
       optional := false
       isSet := Option.isSome
       read := fun _ _ => some <$> Reader.text }]
  empty := none
  finish
    | some name => .ok name
    | none => .error (.missingField "name")

/-- The fields of a grammar that have been read so far. -/
structure Partial where
  /-- The definitions. -/
  definitions : Option (Dict Node) := none
  /-- The listed references. -/
  listed : Option (List String) := none

/-- How a grammar is written. -/
def record : Record Partial Grammar where
  title := "struct Grammar"
  fields :=
    [{ name := "defs"
       optional := false
       isSet := fun p => p.definitions.isSome
       read := fun limits p =>
         (fun d => { p with definitions := some d }) <$> Dict.read Node.read limits },
     { name := "refs"
       optional := true
       isSet := fun p => p.listed.isSome
       read := fun limits p =>
         (fun names => { p with listed := some names }) <$>
           Reader.listOf (Reader.record referenceRecord) limits }]
  empty := {}
  finish := fun p =>
    match p.definitions with
    | some definitions => .ok ⟨definitions, p.listed.getD []⟩
    | none => .error (.missingField "defs")

/-- Reads a grammar. -/
def read : Limits → Reader Grammar := Reader.record record

/-- The grammar that a text describes. -/
def parse (text : String) : Except Json.Fault Grammar := Json.readText read text

end Grammar

end Abnf
