import Abnf.Cli.Colours
import Abnf.Cli.LogFilter
import Abnf.Inspection
import Abnf.Rendering.Diagnostic
import Abnf.Rendering.Render

/-!
# Running a command

A command is run on what came of looking at its files.  The result is what the program writes to its
two streams, and its exit code.  Whether it succeeds depends on the grammar alone: dependencies that
cannot be loaded count as none.  How a table looks, and what is said of the program's own arguments,
is a parameter: others take care of it.
-/

namespace Abnf.Cli

/-- What a run of the program leaves behind. -/
structure Result where
  /-- The exit code. -/
  code : Nat
  /-- What is written to the standard output. -/
  stdout : String := ""
  /-- What is written to the error stream. -/
  stderr : String := ""
deriving DecidableEq, Repr, Inhabited

namespace ExitCode

/-- Everything went well. -/
def ok : Nat := 0

/-- The arguments make no sense. -/
def usage : Nat := 2

/-- The grammar cannot be used. -/
def dataError : Nat := 65

/-- There is no grammar. -/
def noInput : Nat := 66

end ExitCode

/-- The version of the program. -/
def versionText : String := "abnfview 0.1.0\n"

/-- A text in red, if it is to be coloured. -/
def red (coloured : Bool) (text : String) : String :=
  if coloured then "\x1b[31m" ++ text ++ "\x1b[39m" else text

/-- What the program leaves to others: the tables, as they look where it writes them, and the texts
about its own arguments. -/
structure Presentation where
  /-- Prints a table. -/
  table : Text.Sheet → String
  /-- What is said of arguments that make no sense. -/
  complaint : List String → String
  /-- What is said when the arguments ask for help. -/
  help : List String → String

/-- What a command is run with. -/
structure Session where
  /-- What comes of looking at a file. -/
  read : String → Reading
  /-- Prints a table. -/
  table : Text.Sheet → String
  /-- Whether messages are coloured. -/
  coloured : Bool
  /-- Which events are told. -/
  filter : Filter

namespace Session

/-- The grammar of a command, or the result of the run if there is none. -/
def openGrammar (session : Session) (path : String) : Except Result Grammar :=
  match session.read path with
  | .missing =>
    .error
      { code := ExitCode.noInput
        stderr := red session.coloured ("Grammar not found: " ++ path) ++ "\n" }
  | .unreadable reason =>
    .error
      { code := ExitCode.dataError
        stderr := "Error: Failed to read grammar " ++ path ++ ": " ++ reason ++ "\n" }
  | .text content =>
    match Grammar.ofText content with
    | .ok g => .ok g
    | .error e =>
      let d := Diagnostic.ofError content e
      .error
        { code := ExitCode.dataError
          stderr := "Error: " ++ d.text ++ "\n" ++
            path ++ ": " ++ Diagnostic.label ++ " (byte " ++ toString d.offset ++ ")\n" ++
            (d.help.map fun help => "help: " ++ help ++ "\n").getD "" }

/-- The dependencies of a command. -/
def openDependencies (session : Session) (path : Option String) : Dependencies :=
  (path.map fun path => Dependencies.load (session.read path)).getD Dependencies.none

/-- What there is to tell about loading the dependencies. -/
def dependenciesEvents (session : Session) (path : Option String) : List Event :=
  match path with
  | none => []
  | some path =>
    match session.read path with
    | .missing => [.noDependencies]
    | .unreadable _ => [.unreadableDependencies]
    | .text content =>
      match Dependencies.ofText content with
      | .ok _ => []
      | .error _ => [.malformedDependencies]

/-- What there is to tell about a rendered rule. -/
def ruleEvents (rule : RenderedRule) : List Event :=
  (if rule.diagram.isSome then [] else [.withoutDiagram]) ++ [.renderedRule]

/-- What there is to tell about rendering: the start, and the rules up to the first one that cannot
be rendered. -/
def renderEvents (r : Renderer) (rule : Option String) (markup : Markup) : List Event :=
  let selected :=
    match rule with
    | some name => (r.grammar.get? name).toList
    | none => r.grammar.nodes
  let results := selected.map fun node => (r.node markup node).toOption
  .prepared :: ((results.takeWhile Option.isSome).filterMap id).flatMap ruleEvents

/-- The markup for a form of output. -/
def markupFor (format : Format) (links : LinkStyle) : Markup :=
  match format with
  | .text => .plain
  | .html | .json | .railroad => .html links

/-- A rendering in a form of output. -/
def output (format : Format) (rendering : Rendering) : String :=
  match format with
  | .html => rendering.html
  | .text => rendering.text
  | .json => rendering.toValue.indented ++ "\n"
  | .railroad => rendering.railroad

/-- The message for a rendering that fails. -/
def failure (format : Format) (e : RenderError) : String :=
  match format with
  | .json => (Json.Value.obj [("error", .str e.message)]).indented ++ "\n"
  | .html | .text | .railroad => "Render error: " ++ e.message ++ "\n"

/-- Renders a grammar. -/
def render (session : Session) (a : RenderArguments) : Result :=
  match session.openGrammar a.grammar with
  | .error result => result
  | .ok g =>
    let r : Renderer := ⟨g, session.openDependencies a.dependencies, a.options⟩
    let markup := markupFor a.format a.options.links
    let events := session.dependenciesEvents a.dependencies ++ renderEvents r a.rule markup
    match r.selected a.rule markup with
    | .ok rendering =>
      { code := ExitCode.ok
        stdout := output a.format rendering
        stderr := session.filter.log (events ++ [.renderedGrammar]) }
    | .error e =>
      { code := ExitCode.dataError, stderr := session.filter.log events ++ failure a.format e }

/-- Inspects a grammar. -/
def inspect (session : Session) (a : InspectArguments) : Result :=
  match session.openGrammar a.grammar with
  | .error result => result
  | .ok g =>
    let summaries := g.summaries (session.openDependencies a.dependencies)
    { code := ExitCode.ok
      stdout :=
        if a.json then RuleSummary.json summaries else RuleSummary.text session.table summaries
      stderr := session.filter.log (session.dependenciesEvents a.dependencies) }

/-- Runs a command. -/
def run (session : Session) : Command → Result
  | .render a => session.render a
  | .inspect a => session.inspect a

/-- What an invocation is run with. -/
def of (presentation : Presentation) (read : String → Reading) (env : Environment)
    (common : Common) : Session where
  read := read
  table := presentation.table
  coloured :=
    match common.colour.getD .auto with
    | .auto => Environment.wantsColours env
    | .always => true
    | .never => false
  filter := Filter.of env common.verbose

end Session

/-- The result of an invocation that ends early. -/
def Stop.result (presentation : Presentation) (args : List String) : Stop → Result
  | .usage => { code := ExitCode.usage, stderr := presentation.complaint args }
  | .version => { code := ExitCode.ok, stdout := versionText }
  | .help => { code := ExitCode.ok, stdout := presentation.help args }

/-- Runs the program. -/
def run (presentation : Presentation) (read : String → Reading) (env : Environment)
    (args : List String) : Result :=
  match Invocation.parse env args with
  | .ok invocation => (Session.of presentation read env invocation.common).run invocation.command
  | .error stop => stop.result presentation args

end Abnf.Cli
