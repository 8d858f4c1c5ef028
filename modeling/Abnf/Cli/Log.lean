/-!
# The log

While it works the program may tell what it does, in lines on the error stream.  What it has to tell
are events: each has a level, comes from a part of the program, and carries named fields.
-/

namespace Abnf.Cli

/-- How important an event is; the most important level comes first. -/
inductive Level where
  /-- Something went wrong. -/
  | error
  /-- Something is suspicious. -/
  | warn
  /-- Something happened. -/
  | info
  /-- Something for developers. -/
  | debug
  /-- Every detail. -/
  | trace
deriving DecidableEq, Repr, Inhabited

namespace Level

/-- The rank of a level, from one for errors. -/
def rank : Level → Nat
  | .error => 1
  | .warn => 2
  | .info => 3
  | .debug => 4
  | .trace => 5

/-- The name of a level. -/
def name : Level → String
  | .error => "ERROR"
  | .warn => "WARN"
  | .info => "INFO"
  | .debug => "DEBUG"
  | .trace => "TRACE"

/-- All levels. -/
def all : List Level := [.error, .warn, .info, .debug, .trace]

end Level

/-- Something that the log may tell. -/
structure Event where
  /-- The part of the program that it comes from. -/
  part : String
  /-- Its level. -/
  level : Level
  /-- What it says. -/
  text : String
  /-- The names of the fields that it carries besides its text. -/
  fields : List String
deriving DecidableEq, Repr

namespace Event

/-- Whether an event carries a field.  Its text is one too. -/
def has (e : Event) (field : String) : Bool := field == "message" || e.fields.contains field

/-- An event as a line of the log. -/
def line (e : Event) : String := e.level.name ++ " " ++ e.part ++ ": " ++ e.text ++ "\n"

/-! ## What the program tells -/

/-- There is no file with dependencies. -/
def noDependencies : Event :=
  ⟨"abnfview::grammar::load", .debug, "no dependency metadata", ["path"]⟩

/-- The file with the dependencies cannot be read. -/
def unreadableDependencies : Event :=
  ⟨"abnfview::grammar::load", .warn, "cannot read dependency metadata", ["path", "error"]⟩

/-- The dependencies make no sense. -/
def malformedDependencies : Event :=
  ⟨"abnfview::grammar::load", .warn, "ignoring malformed dependency metadata", ["path", "error"]⟩

/-- The entry points have been found. -/
def prepared : Event :=
  ⟨"abnfview::compiler::driver", .debug, "prepared grammar for rendering",
    ["rules", "entry_points"]⟩

/-- A rule gets no diagram. -/
def withoutDiagram : Event :=
  ⟨"abnfview::compiler::driver", .trace, "skipping diagram for foreign rule",
    ["rule", "provenance"]⟩

/-- A rule has been rendered. -/
def renderedRule : Event :=
  ⟨"abnfview::compiler::driver", .trace, "rendered rule", ["rule"]⟩

/-- Everything has been rendered. -/
def renderedGrammar : Event :=
  ⟨"abnfview::commands::render", .debug, "rendered grammar", ["rules"]⟩

end Event

end Abnf.Cli
