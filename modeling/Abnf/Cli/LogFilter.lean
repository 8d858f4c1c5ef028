import Abnf.Cli.Invocation
import Abnf.Cli.Log
import Abnf.Text.CharClass

/-!
# Which events are told

Which events the log tells is decided by a filter.  It consists of directives, each of which gives
the least important level that is told of some events: those from certain parts of the program, or
those that carry a certain field.  Of the directives that concern an event the most specific one
counts.

A directive is written `part[span{field}]=level`; all four may be missing.  A word alone is a level
if there is one of that name, and a part otherwise.
-/

namespace Abnf.Cli

/-- A directive of a filter. -/
structure Directive where
  /-- How the names of the parts start that are meant, if it is not meant for all. -/
  part : Option String := none
  /-- Whether only what happens within a certain span is meant.  The program has no spans. -/
  within : Bool := false
  /-- The field that an event has to carry. -/
  field : Option String := none
  /-- The rank up to which events are told. -/
  rank : Nat := Level.trace.rank
deriving DecidableEq, Repr

namespace Directive

/-- Whether a directive concerns an event. -/
def concerns (d : Directive) (e : Event) : Bool :=
  !d.within && (d.part.all fun part => part.toList.isPrefixOf e.part.toList) &&
    d.field.all e.has

/-- Whether a directive is at most as specific as another one that concerns the same event: longer
names of parts are more specific, then fields are. -/
def atMost (a b : Directive) : Bool :=
  match a.part, b.part with
  | none, some _ => true
  | some _, none => false
  | none, none => fields
  | some p, some q => p.length < q.length || p.length == q.length && fields
where
  /-- Whether the field of the one is at most as specific as that of the other. -/
  fields : Bool :=
    match a.field, b.field with
    | none, _ => true
    | some _, none => false
    | some f, some g => f ≤ g

/-! ## Directives as they are written -/

/-- The rank that a text names: by the name of a level, by `off`, or by a number. -/
def rankOfName (name : String) : Option Nat :=
  match numberValue name with
  | some n => if n ≤ Level.trace.rank then some n else none
  | none =>
    if Text.sameName name "off" then some 0
    else (Level.all.find? fun level => Text.sameName name level.name).map Level.rank

/-- The rank at the end of a directive; all events are told if there is none. -/
def rankOfEnd (name : String) : Option Nat :=
  if name.isEmpty then some Level.trace.rank else rankOfName name

/-- What is being read of a directive, and where it begins. -/
inductive Stage where
  /-- Nothing yet. -/
  | start
  /-- A part or a level. -/
  | word (first : Nat)
  /-- The name of a span. -/
  | span (first : Nat)
  /-- A field. -/
  | field (first : Nat)
  /-- What follows a field. -/
  | afterField
  /-- What follows a span. -/
  | afterSpan
  /-- A level. -/
  | level (first : Nat)
deriving DecidableEq, Repr

/-- The part of a text between two places. -/
def slice (text : List Char) (first last : Nat) : String :=
  String.ofList ((text.drop first).take (last - first))

/-- A directive with a field, which is left out if a value is asked for: only spans are compared
with values. -/
def withField (d : Directive) (field : String) : Option Directive :=
  if field.isEmpty then none
  else if field.contains '=' then some { d with within := true }
  else some { d with field := some field }

/-- Reads one character of a directive, at the given place. -/
def read (text : List Char) (d : Directive) (stage : Stage) (place : Nat) (c : Char) :
    Option (Directive × Stage) :=
  match stage with
  | .start =>
    if c = '[' then some (d, .span (place + 1))
    else if c = '-' ∨ c = ':' ∨ c = '_' ∨ Text.isAlphanumeric c then some (d, .word place)
    else none
  | .word first =>
    if c = '=' then some ({ d with part := some (slice text first place) }, .level (place + 1))
    else if c = '[' then some ({ d with part := some (slice text first place) }, .span (place + 1))
    else some (d, stage)
  | .span first =>
    if c = ']' then some ({ d with within := true }, .afterSpan)
    else if c = '\x7b' then
      some ({ d with within := d.within || place != first }, .field (place + 1))
    else some (d, stage)
  | .field first =>
    if c = '\x7d' then (d.withField (slice text first place)).map (·, .afterField)
    else some (d, stage)
  | .afterField => if c = ']' then some (d, .afterSpan) else none
  | .afterSpan => if c = '=' then some (d, .level (place + 1)) else none
  | .level _ => some (d, stage)

/-- The directive of which everything has been read. -/
def finish (text : List Char) (d : Directive) : Stage → Option Directive
  | .word first =>
    let word := slice text first text.length
    match rankOfEnd word with
    | some rank => some { d with rank := rank }
    | none => some { d with part := some word }
  | .level first =>
    (rankOfEnd (slice text first text.length)).map fun rank => { d with rank := rank }
  | .afterSpan => some d
  | .start | .span _ | .field _ | .afterField => none

/-- The directive that a text describes.  The blanks around it are passed over when places are
counted, but not when the text between two places is taken. -/
def ofText? (text : List Char) : Option Directive := do
  let (d, stage) ← (Text.trimmed text).zipIdx.foldlM
    (fun (d, stage) (c, place) => read text d stage place c) ({}, .start)
  d.finish text stage

end Directive

/-- The directives of a filter. -/
abbrev Filter := List Directive

namespace Filter

/-- The filter that lets errors pass only. -/
def errors : Filter := [{ rank := Level.error.rank }]

/-- The filter that lets errors and warnings pass. -/
def warnings : Filter := [{ rank := Level.warn.rank }]

/-- The filter that lets the program tell everything but details. -/
def verbose : Filter := [{ part := some "abnfview", rank := Level.debug.rank }]

/-- The directive that counts for an event.  Of equally specific ones it is the last. -/
def directive? (filter : Filter) (e : Event) : Option Directive :=
  (filter.filter (·.concerns e)).foldl
    (fun best d =>
      match best with
      | some b => if b.atMost d then some d else best
      | none => some d)
    none

/-- Whether an event is told. -/
def tells (filter : Filter) (e : Event) : Bool :=
  (filter.directive? e).any fun d => e.level.rank ≤ d.rank

/-- The filter that a text describes: directives separated by commas.  Without directives only
errors are told. -/
def ofText? (text : String) : Option Filter := do
  let parts := (text.splitOn ",").filter fun part => !part.isEmpty
  let directives ← parts.mapM fun part => Directive.ofText? part.toList
  if directives.isEmpty then some errors else some directives

/-- The filter of an invocation: everything but details if more is to be told, else what the
environment says, and warnings if that says nothing or makes no sense. -/
def of (env : Environment) (isVerbose : Bool) : Filter :=
  if isVerbose then verbose else ((env.lookup "RUST_LOG").bind ofText?).getD warnings

/-- The lines of the log that are told. -/
def log (filter : Filter) (events : List Event) : String :=
  String.join ((events.filter filter.tells).map Event.line)

end Filter

end Abnf.Cli
