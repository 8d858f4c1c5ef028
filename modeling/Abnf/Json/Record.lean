import Abnf.Json.Pass

/-!
# Records

A record is a fixed collection of named fields.  It is read from an object, whose members may stand
in any order and may include unknown ones, or from a list of the fields' values in their declared
order.  The fields read so far are a state; each field says how its value is read into the state.
-/

namespace Abnf.Json

/-- A field of a record whose fields read so far make up a state of type `σ`. -/
structure Field (σ : Type) where
  /-- The name of the field. -/
  name : String
  /-- Whether the field may be absent. -/
  optional : Bool
  /-- Whether a state has the field already. -/
  isSet : σ → Bool
  /-- Reads the value of the field into a state. -/
  read : Limits → σ → Reader σ

/-- How a record is called and what fields it has. -/
structure Record (σ α : Type) where
  /-- What messages call the record. -/
  title : String
  /-- The fields, in their declared order. -/
  fields : List (Field σ)
  /-- The state before any field has been read. -/
  empty : σ
  /-- The record that a state amounts to, unless a field is missing. -/
  finish : σ → Except Cause α

/-- The word that a message uses for a number of elements. -/
def elementCount (n : Nat) : String :=
  toString n ++ (if n = 1 then " element" else " elements")

namespace Reader

/-- Reads one member of a record's object. -/
def recordMember (fields : List (Field σ)) (limits : Limits) (state : σ) (name : String) :
    Reader σ :=
  match fields.find? (·.name == name) with
  | none => do
    colon
    pass limits
    pure state
  | some field =>
    if field.isSet state then refuse (.duplicateField name)
    else do
      colon
      field.read limits state

/-- Reads the fields of a record from the elements of a list.  The number of fields that have been
read already is given. -/
def recordElements (title : String) (limits : Limits) : Nat → List (Field σ) → σ → Reader σ
  | _, [], state => pure state
  | done, field :: rest, state => do
    match ← nextElement (done == 0) with
    | some () =>
      let state ← field.read limits state
      recordElements title limits (done + 1) rest state
    | none =>
      if field.optional then recordElements title limits (done + 1) rest state
      else refuse (.wrongLength done (title ++ " with " ++ elementCount (done + rest.length + 1)))

/-- Reads a record. -/
def record (layout : Record σ α) (limits : Limits) : Reader α := do
  match ← peekToken with
  | some '{' =>
    object limits fun inner => do
      let state ← members inner.rounds (recordMember layout.fields inner) layout.empty
      ofExcept (layout.finish state)
  | some '[' =>
    list limits fun inner => do
      let state ← recordElements layout.title inner 0 layout.fields layout.empty
      ofExcept (layout.finish state)
  | _ => scalarAs fun v => .error (.wrongType v.found layout.title)

/-- Reads a list of values of one type. -/
def listOf (item : Limits → Reader α) (limits : Limits) : Reader (List α) := do
  match ← peekToken with
  | some '[' => list limits fun inner => elements inner.rounds (item inner)
  | _ => scalarAs fun v => .error (.wrongType v.found "a sequence")

end Reader

/-! ## Values of simple types -/

/-- The text that a value is. -/
def Value.asText : Value → Except Cause String
  | .str s => .ok s
  | v => .error (.wrongType v.found "a string")

/-- The 32-bit number that a value is. -/
def Value.asWord : Value → Except Cause UInt32
  | .int n =>
    if 0 ≤ n ∧ n < UInt32.size then .ok (UInt32.ofNat n.toNat) else .error (.wrongInteger n "u32")
  | v => .error (.wrongType v.found "u32")

/-- A value that may be `null`. -/
def Value.asOptional (decode : Value → Except Cause α) : Value → Except Cause (Option α)
  | .null => .ok none
  | v => some <$> decode v

namespace Reader

/-- Reads a text. -/
def text : Reader String := scalarAs Value.asText

/-- Reads a 32-bit number. -/
def word32 : Reader UInt32 := scalarAs Value.asWord

/-- Reads `null`, or a value. -/
def optional (r : Reader α) : Reader (Option α) := do
  match ← peekToken with
  | some 'n' =>
    word ['n', 'u', 'l', 'l']
    pure none
  | _ => some <$> r

end Reader

/-! ## Choices -/

/-- One of several things, each of which has a name. -/
structure Choice (α : Type) where
  /-- The things and their names, as messages list them. -/
  named : List (String × α)

namespace Choice

/-- The thing of a given name, if there is one. -/
def get? (choice : Choice α) (name : String) : Option α := choice.named.lookup name

/-- The thing of a given name. -/
def ofName (choice : Choice α) (name : String) : Except Cause α :=
  match choice.get? name with
  | some a => .ok a
  | none => .error (.unknownVariant name (choice.named.map (·.1)))

/-- The thing that a value names. -/
def ofIdentifier (choice : Choice α) : Value → Except Cause α
  | .str name => choice.ofName name
  | v => .error (.wrongType v.found "variant identifier")

/-- The thing that a value stands for: by its name, or by an object with its name as the only
member and `null` as its value. -/
def ofValue (choice : Choice α) : Value → Except Cause α
  | .str name => choice.ofName name
  | .obj [(name, v)] =>
    match choice.ofName name, v with
    | .error cause, _ => .error cause
    | .ok a, .null => .ok a
    | .ok _, v => .error (.wrongType v.found "unit")
  | .obj _ => .error .wrongMap
  | v => .error (.wrongType v.found "string or map")

/-- Reads the name of a choice as the name of the first member of an object, which has to have
one. -/
def readName (choice : Choice α) : Reader α := do
  match ← Reader.nextMember true with
  | some name => Reader.ofExceptHere (choice.ofName name)
  | none => Reader.failAhead .expectedValue

/-- Reads a choice: its name, or an object with its name as the only member and `null` as its
value. -/
def read (choice : Choice α) (limits : Limits) : Reader α := do
  match ← Reader.peekToken with
  | some '"' => Reader.scalarAs choice.ofIdentifier
  | some '{' =>
    match limits.levels with
    | 0 => Reader.failAhead .tooDeep
    | _ + 1 =>
      Reader.skip 1
      let a ← choice.readName
      Reader.colon
      Reader.scalarAs fun v =>
        match v with
        | .null => .ok ()
        | v => .error (.wrongType v.found "unit")
      match ← Reader.peekToken with
      | some '}' =>
        Reader.skip 1
        pure a
      | some _ => Reader.failHere .expectedValue
      | none => Reader.failHere .endOfObject
  | some _ => Reader.failAhead .expectedValue
  | none => Reader.failAhead .endOfValue

end Choice

end Abnf.Json
