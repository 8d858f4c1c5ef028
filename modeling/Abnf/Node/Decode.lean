import Abnf.Json.Record
import Abnf.Node.Basic

/-!
# Reading a definition tree

A node is written as an object with a member `type` that names its kind, and with the fields of that
kind; or as a list of the kind's name and the fields in their order.  The members may stand in any
order and may include unknown ones.  The whole node is read before its kind decides what its fields
mean, so that what is wrong with the fields is only known at the end of the node.

Three sets of rules meet here: the fields of each kind (`Kind.fields`), what makes a value a field
(`Slot.fill`), and how a node is made up of its fields (`Kind.assemble`).
-/

namespace Abnf

open Json (Value Cause Reader Limits Choice)

/-! ## Bases and bounds -/

/-- The base of a given radix. -/
def Base.ofRadix (n : UInt32) : Except Cause Base :=
  match Base.ofRadix? n.toNat with
  | some b => .ok b
  | none => .error (.unsupportedBase n.toNat)

/-- The base that a value is. -/
def Base.ofValue (v : Value) : Except Cause Base := v.asWord >>= Base.ofRadix

/-- Reads a base. -/
def Base.read (_ : Limits) : Reader Base := do
  let n ← Reader.word32
  Reader.ofExcept (Base.ofRadix n)

namespace Repeat

/-- The bounds that have been read so far. -/
structure Partial where
  /-- The least number of occurrences. -/
  min : Option UInt32 := none
  /-- The greatest number of occurrences. -/
  max : Option (Option UInt32) := none

/-- What messages call the bounds. -/
def title : String := "struct Repeat"

namespace Partial

/-- The bounds that have been read, if the least number is among them. -/
def finish (p : Partial) : Except Cause Repeat :=
  match p.min with
  | some min => .ok ⟨min, p.max.getD none⟩
  | none => .error (.missingField "min")

/-- Adds one member of an object of bounds. -/
def add (p : Partial) : String × Value → Except Cause Partial
  | ("min", v) =>
    if p.min.isSome then .error (.duplicateField "min")
    else do
      let n ← v.asWord
      .ok { p with min := some n }
  | ("max", v) =>
    if p.max.isSome then .error (.duplicateField "max")
    else do
      let n ← v.asOptional Value.asWord
      .ok { p with max := some n }
  | _ => .ok p

end Partial

/-- The bounds that a value is. -/
def ofValue : Value → Except Cause Repeat
  | .obj members => members.foldlM Partial.add {} >>= Partial.finish
  | .arr [] => .error (.wrongLength 0 (title ++ " with " ++ Json.elementCount 2))
  | .arr [min] => do
    let least ← min.asWord
    .ok ⟨least, none⟩
  | .arr (min :: max :: extra) => do
    let least ← min.asWord
    let most ← max.asOptional Value.asWord
    if extra.isEmpty then .ok ⟨least, most⟩
    else .error (.wrongLength (extra.length + 2) (Json.elementCount 2 ++ " in sequence"))
  | v => .error (.wrongType v.found title)

/-- How bounds are written. -/
def record : Json.Record Partial Repeat where
  title := title
  fields :=
    [{ name := "min"
       optional := false
       isSet := fun p => p.min.isSome
       read := fun _ p => (fun n => { p with min := some n }) <$> Reader.word32 },
     { name := "max"
       optional := true
       isSet := fun p => p.max.isSome
       read := fun _ p =>
         (fun n => { p with max := some n }) <$> Reader.optional Reader.word32 }]
  empty := {}
  finish := Partial.finish

/-- Reads bounds. -/
def read : Limits → Reader Repeat := Reader.record record

end Repeat

/-! ## Kinds and their fields -/

/-- What a field of a node holds. -/
inductive Slot where
  /-- The name of a rule. -/
  | name
  /-- The text of a literal or of prose. -/
  | text
  /-- The base of a literal, which may be `null`. -/
  | baseOrNull
  /-- The base of a range. -/
  | base
  /-- The first code of a range. -/
  | first
  /-- The last code of a range. -/
  | last
  /-- The node below. -/
  | child
  /-- The nodes below. -/
  | children
  /-- The bounds of a repetition. -/
  | bounds
deriving DecidableEq

namespace Kind

/-- The kinds by their names.  Two of them are also known by a misspelled name. -/
def named : Choice Kind where
  named :=
    [("rule", .rule), ("caseSensitiveString", .literal .sensitive),
     ("caseSensitveString", .literal .sensitive), ("caseInsensitiveString", .literal .insensitive),
     ("caseInsensitveString", .literal .insensitive), ("range", .range), ("prose", .prose),
     ("ruleref", .reference), ("concatenation", .concatenation), ("alternation", .alternation),
     ("group", .group), ("repetition", .repetition)]

/-- The kind that a value names: by its name, or by its number. -/
def ofValue : Value → Except Cause Kind
  | .int n =>
    match n, all[n.toNat]? with
    | .ofNat _, some kind => .ok kind
    | .ofNat _, none =>
      .error (.wrongInteger n ("variant index 0 <= i < " ++ toString all.length))
    | .negSucc _, _ => .error (.wrongType (.int n) "variant identifier")
  | v => named.ofIdentifier v

/-- The fields of a kind, by name and in their order. -/
def fields : Kind → List (String × Slot)
  | .rule => [("name", .name), ("def", .child)]
  | .literal _ => [("str", .text), ("base", .baseOrNull)]
  | .range => [("first", .first), ("last", .last), ("base", .base)]
  | .prose => [("str", .text)]
  | .reference => [("name", .name)]
  | .concatenation => [("elements", .children)]
  | .alternation => [("alts", .children)]
  | .group => [("alt", .child)]
  | .repetition => [("el", .child), ("rep", .bounds)]

/-- What messages call a node of a kind. -/
def title (kind : Kind) : String :=
  "struct variant Node::" ++
    match kind with
    | .rule => "Rule"
    | .literal .sensitive => "CaseSensitiveString"
    | .literal .insensitive => "CaseInsensitiveString"
    | .range => "Range"
    | .prose => "Prose"
    | .reference => "RuleRef"
    | .concatenation => "Concatenation"
    | .alternation => "Alternation"
    | .group => "Group"
    | .repetition => "Repetition"

end Kind

/-- The fields of a node that have been read so far. -/
structure Parts where
  /-- The name of a rule. -/
  name : Option String := none
  /-- The text of a literal or of prose. -/
  text : Option String := none
  /-- The base of a literal or a range. -/
  base : Option (Option Base) := none
  /-- The first code of a range. -/
  first : Option UInt32 := none
  /-- The last code of a range. -/
  last : Option UInt32 := none
  /-- The node below. -/
  child : Option Node := none
  /-- The nodes below. -/
  children : Option (List Node) := none
  /-- The bounds of a repetition. -/
  bounds : Option Repeat := none

namespace Slot

/-- Whether a field has been read. -/
def isSet (slot : Slot) (parts : Parts) : Bool :=
  match slot with
  | .name => parts.name.isSome
  | .text => parts.text.isSome
  | .baseOrNull | .base => parts.base.isSome
  | .first => parts.first.isSome
  | .last => parts.last.isSome
  | .child => parts.child.isSome
  | .children => parts.children.isSome
  | .bounds => parts.bounds.isSome

/-- Whether a field may be absent. -/
def isOptional (slot : Slot) : Bool := slot = .baseOrNull

/-- Adds a field to those that have been read.  What the value is as a node, and as a list of
nodes, is supplied with it. -/
def fill (slot : Slot) (v : Value) (node : Unit → Except Cause Node)
    (nodes : Unit → Except Cause (List Node)) (parts : Parts) : Except Cause Parts :=
  match slot with
  | .name => v.asText.map fun s => { parts with name := some s }
  | .text => v.asText.map fun s => { parts with text := some s }
  | .baseOrNull => (v.asOptional Base.ofValue).map fun b => { parts with base := some b }
  | .base => (Base.ofValue v).map fun b => { parts with base := some (some b) }
  | .first => v.asWord.map fun n => { parts with first := some n }
  | .last => v.asWord.map fun n => { parts with last := some n }
  | .child => (node ()).map fun n => { parts with child := some n }
  | .children => (nodes ()).map fun ns => { parts with children := some ns }
  | .bounds => (Repeat.ofValue v).map fun r => { parts with bounds := some r }

/-- A field that has to be there. -/
def require (name : String) : Option α → Except Cause α
  | some a => .ok a
  | none => .error (.missingField name)

end Slot

/-- The node of a kind that is made up of the given fields. -/
def Kind.assemble (kind : Kind) (parts : Parts) : Except Cause Node :=
  match kind with
  | .rule => do
    let name ← Slot.require "name" parts.name
    let definition ← Slot.require "def" parts.child
    .ok (.rule name definition)
  | .literal casing => do
    let text ← Slot.require "str" parts.text
    .ok (.literal casing text (parts.base.getD none))
  | .range => do
    let first ← Slot.require "first" parts.first
    let last ← Slot.require "last" parts.last
    let base ← Slot.require "base" (parts.base.getD none)
    .ok (.range first last base)
  | .prose => .prose <$> Slot.require "str" parts.text
  | .reference => .reference <$> Slot.require "name" parts.name
  | .concatenation => .concatenation <$> Slot.require "elements" parts.children
  | .alternation => .alternation <$> Slot.require "alts" parts.children
  | .group => .group <$> Slot.require "alt" parts.child
  | .repetition => do
    let element ← Slot.require "el" parts.child
    let bounds ← Slot.require "rep" parts.bounds
    .ok (.repetition element bounds)

namespace Node

/-! ## Nodes from values -/

/-- The member that names the kind of a node. -/
def tagKey : String := "type"

/-- What messages call a node. -/
def title : String := "internally tagged enum Node"

/-- The kind that the members of an object name, after the given one. -/
def kindOfMembers : Option Kind → List (String × Value) → Except Cause Kind
  | some kind, [] => .ok kind
  | none, [] => .error (.missingField tagKey)
  | found, (name, v) :: rest =>
    if name = tagKey then
      if found.isSome then .error (.duplicateField tagKey)
      else do
        let kind ← Kind.ofValue v
        kindOfMembers (some kind) rest
    else kindOfMembers found rest

/-- Checks the fields for which a list has no elements left. -/
def checkAbsent (kind : Kind) (done : Nat) : List (String × Slot) → Except Cause Unit
  | [] => .ok ()
  | (_, slot) :: rest =>
    if slot.isOptional then checkAbsent kind (done + 1) rest
    else .error (.wrongLength done
      (kind.title ++ " with " ++ Json.elementCount kind.fields.length))

mutual

/-- The node that a value is. -/
def ofValue : Value → Except Cause Node
  | .obj members => do
    let kind ← kindOfMembers none members
    let parts ← partsOfMembers kind members {}
    kind.assemble parts
  | .arr [] => .error (.missingField tagKey)
  | .arr (tag :: items) => do
    let kind ← Kind.ofValue tag
    let parts ← partsOfItems kind 0 kind.fields items {}
    kind.assemble parts
  | v => .error (.wrongType v.found title)

/-- The nodes that a value lists. -/
def listOfValue : Value → Except Cause (List Node)
  | .arr items => ofValues items
  | v => .error (.wrongType v.found "a sequence")

/-- The nodes that several values are. -/
def ofValues : List Value → Except Cause (List Node)
  | [] => .ok []
  | v :: rest => do
    let node ← ofValue v
    let nodes ← ofValues rest
    .ok (node :: nodes)

/-- The fields of a node of the given kind among the members of an object. -/
def partsOfMembers (kind : Kind) : List (String × Value) → Parts → Except Cause Parts
  | [], parts => .ok parts
  | (name, v) :: rest, parts =>
    match kind.fields.lookup name with
    | none => partsOfMembers kind rest parts
    | some slot =>
      if slot.isSet parts then .error (.duplicateField name)
      else do
        let parts ← slot.fill v (fun _ => ofValue v) (fun _ => listOfValue v) parts
        partsOfMembers kind rest parts

/-- The fields of a node of the given kind from the elements of a list.  The fields that are left
are given, and the number of those before them. -/
def partsOfItems (kind : Kind) (done : Nat) (fields : List (String × Slot)) :
    List Value → Parts → Except Cause Parts
  | [], parts => (checkAbsent kind done fields).map fun _ => parts
  | v :: rest, parts =>
    match fields with
    | [] => .error (.wrongLength (done + rest.length + 1) (Json.elementCount done ++ " in sequence"))
    | (_, slot) :: fields => do
      let parts ← slot.fill v (fun _ => ofValue v) (fun _ => listOfValue v) parts
      partsOfItems kind (done + 1) fields rest parts

end

/-! ## Nodes from a text -/

/-- Reads one member of a node: its kind, or a field whose meaning the kind decides later. -/
def readMember (limits : Limits) (state : Option Kind × List (String × Value)) (name : String) :
    Reader (Option Kind × List (String × Value)) :=
  if name = tagKey then
    if state.1.isSome then Reader.refuse (.duplicateField tagKey)
    else do
      Reader.colon
      let kind ← Reader.scalarAs Kind.named.ofIdentifier
      pure (some kind, state.2)
  else do
    Reader.colon
    let v ← Reader.value limits
    pure (state.1, (name, v) :: state.2)

/-- Reads the members of a node. -/
def readMembers (limits : Limits) : Reader (Kind × List (String × Value)) := do
  match ← Reader.members limits.rounds (readMember limits) (none, []) with
  | (some kind, read) => pure (kind, read.reverse)
  | (none, _) => Reader.refuse (.missingField tagKey)

/-- Reads the elements of a node that is written as a list. -/
def readItems (limits : Limits) : Reader (Kind × List Value) := do
  match ← Reader.nextElement true with
  | none => Reader.refuse (.missingField tagKey)
  | some () =>
    let kind ← Reader.scalarAs Kind.named.ofIdentifier
    let item (read : List Value) (_ : Unit) := (· :: read) <$> Reader.value limits
    let read ← Reader.many Reader.nextElement item limits.rounds false []
    pure (kind, read.reverse)

/-- Reads a node. -/
def read (limits : Limits) : Reader Node := do
  match ← Reader.peekToken with
  | some '{' =>
    let (kind, members) ← Reader.object limits readMembers
    Reader.ofExcept (partsOfMembers kind members {} >>= kind.assemble)
  | some '[' =>
    let (kind, items) ← Reader.list limits readItems
    Reader.ofExcept (partsOfItems kind 0 kind.fields items {} >>= kind.assemble)
  | _ => Reader.scalarAs fun v => .error (.wrongType v.found title)

/-- The node that a text describes. -/
def parse (text : String) : Except Json.Fault Node := Json.readText read text

end Node

end Abnf
