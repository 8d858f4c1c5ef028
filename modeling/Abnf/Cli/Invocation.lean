import Abnf.Cli.Arguments
import Abnf.Rendering.Options

/-!
# Invocations

What the program can be asked to do: to render a grammar, or to inspect it.  Some options of
rendering can also be set by environment variables, which count only where the option is not given.
-/

namespace Abnf.Cli

/-- When messages are coloured. -/
inductive Colour where
  /-- As the environment says. -/
  | auto
  /-- Always. -/
  | always
  /-- Never. -/
  | never
deriving DecidableEq, Repr, Inhabited

/-- The forms in which a rendering is put out. -/
inductive Format where
  /-- A page of HTML. -/
  | html
  /-- Plain text. -/
  | text
  /-- JSON. -/
  | json
  /-- The expressions of the diagrams. -/
  | railroad
deriving DecidableEq, Repr, Inhabited

/-- The names of the values of `Colour`. -/
def Colour.names : List (String × Colour) :=
  [("auto", .auto), ("always", .always), ("never", .never)]

/-- The names of the values of `Format`. -/
def Format.names : List (String × Format) :=
  [("html", .html), ("text", .text), ("json", .json), ("railroad", .railroad)]

/-- The settings that every command has. -/
structure Common where
  /-- When messages are coloured. -/
  colour : Option Colour := none
  /-- Whether more is told. -/
  verbose : Bool := false
deriving Repr, Inhabited

/-- The settings of a command together with those in front of it. -/
def Common.after (inner outer : Common) : Common :=
  ⟨inner.colour.or outer.colour, inner.verbose || outer.verbose⟩

/-- What to render, and how. -/
structure RenderArguments where
  /-- The file with the grammar. -/
  grammar : String
  /-- The file with the dependencies. -/
  dependencies : Option String := none
  /-- The form of the output. -/
  format : Format := .html
  /-- The only rule to be rendered. -/
  rule : Option String := none
  /-- The options of the rendering. -/
  options : Options := {}
deriving Repr, Inhabited

/-- What to inspect, and how. -/
structure InspectArguments where
  /-- The file with the grammar. -/
  grammar : String
  /-- The file with the dependencies. -/
  dependencies : Option String := none
  /-- Whether the output is JSON. -/
  json : Bool := false
deriving Repr, Inhabited

/-- A command. -/
inductive Command where
  /-- Renders a grammar. -/
  | render (arguments : RenderArguments)
  /-- Inspects a grammar. -/
  | inspect (arguments : InspectArguments)
deriving Repr, Inhabited

/-- What the program is asked to do. -/
structure Invocation where
  /-- The settings. -/
  common : Common
  /-- The command. -/
  command : Command
deriving Repr, Inhabited

/-- The environment variables of a program. -/
abbrev Environment := List (String × String)

/-! ## Values of options -/

/-- A path, which is not empty. -/
def pathValue (value : String) : Option String := if value.isEmpty then none else some value

/-- A number below `2 ^ 64`; a plus sign may precede it. -/
def numberValue (value : String) : Option Nat :=
  let digits :=
    match value.toList with
    | '+' :: digits => digits
    | digits => digits
  if digits.isEmpty || !digits.all Char.isDigit then none
  else
    let n := digits.foldl (fun n c => n * 10 + (c.toNat - 48)) 0
    if n < UInt64.size then some n else none

/-! ## The program itself -/

/-- The flags that every command has. -/
def commonFlags (get : σ → Common) (set : σ → Common → σ) :
    List (String × (σ → Except Stop σ)) :=
  [("verbose", fun s =>
      if (get s).verbose then .error .usage else .ok (set s { get s with verbose := true })),
   ("help", fun _ => .error .help)]

/-- The options that every command has. -/
def commonOptions (get : σ → Common) (set : σ → Common → σ) :
    List (String × (String → σ → Except Stop σ)) :=
  [("color", fun value s => do
      let colour ← setOnce (get s).colour (Colour.names.lookup value)
      .ok (set s { get s with colour := colour }))]

/-- The short flags that every command has. -/
def commonShorts : List (Char × String) := [('v', "verbose"), ('h', "help")]

/-- The arguments in front of the command. -/
def programGrade : Grade Common where
  flags := commonFlags id (fun _ c => c) ++ [("version", fun _ => .error .version)]
  shorts := commonShorts ++ [('V', "version")]
  options := commonOptions id (fun _ c => c)
  operand _ _ := .error .usage

/-! ## Rendering -/

/-- The arguments of `render` that have been read so far. -/
structure RenderState where
  /-- The settings that every command has. -/
  common : Common := {}
  /-- The operand. -/
  grammar : Option String := none
  /-- The value of `--deps`. -/
  dependencies : Option String := none
  /-- The value of `--format`. -/
  format : Option Format := none
  /-- The value of `--rule`. -/
  rule : Option String := none
  /-- The value of `--diagrams`. -/
  diagrams : Option DiagramPolicy := none
  /-- The value of `--layout`. -/
  layout : Option Layout := none
  /-- Whether `--no-labels` is given. -/
  noLabels : Bool := false
  /-- The value of `--link-style`. -/
  links : Option LinkStyle := none
  /-- The value of `--max-depth`. -/
  maxDepth : Option Nat := none

/-- The arguments of `render`. -/
def renderGrade : Grade RenderState where
  flags := commonFlags RenderState.common (fun s c => { s with common := c }) ++
    [("no-labels", fun s =>
      if s.noLabels then .error .usage else .ok { s with noLabels := true })]
  shorts := commonShorts
  options := commonOptions RenderState.common (fun s c => { s with common := c }) ++
    [("deps", fun value s =>
        (fun v => { s with dependencies := v }) <$> setOnce s.dependencies (pathValue value)),
     ("format", fun value s =>
        (fun v => { s with format := v }) <$> setOnce s.format (Format.names.lookup value)),
     ("rule", fun value s => (fun v => { s with rule := v }) <$> setOnce s.rule (some value)),
     ("diagrams", fun value s =>
        (fun v => { s with diagrams := v }) <$>
          setOnce s.diagrams (DiagramPolicy.named.get? value)),
     ("layout", fun value s =>
        (fun v => { s with layout := v }) <$> setOnce s.layout (Layout.named.get? value)),
     ("link-style", fun value s =>
        (fun v => { s with links := v }) <$> setOnce s.links (LinkStyle.named.get? value)),
     ("max-depth", fun value s =>
        (fun v => { s with maxDepth := v }) <$> setOnce s.maxDepth (numberValue value))]
  operand value s :=
    (fun v => { s with grammar := v }) <$> setOnce s.grammar (pathValue value)

/-- A setting that is not given takes its value from an environment variable, if that is set. -/
def orVariable (env : Environment) (name : String) (decode : String → Option α)
    (current : Option α) : Except Stop (Option α) :=
  match current, env.lookup name with
  | some a, _ => .ok (some a)
  | none, none => .ok none
  | none, some value =>
    match decode value with
    | some a => .ok (some a)
    | none => .error .usage

/-- The command that the arguments of `render` amount to. -/
def RenderState.finish (s : RenderState) (env : Environment) : Except Stop RenderArguments := do
  let diagrams ← orVariable env "ABNFVIEW_DIAGRAMS" DiagramPolicy.named.get? s.diagrams
  let links ← orVariable env "ABNFVIEW_LINK_STYLE" LinkStyle.named.get? s.links
  match s.grammar with
  | none => .error .usage
  | some grammar =>
    .ok
      { grammar := grammar
        dependencies := s.dependencies
        format := s.format.getD .html
        rule := s.rule
        options :=
          { diagrams := diagrams.getD .skipForeign
            label := !s.noLabels
            maxDepth := s.maxDepth.getD Descent.defaultLimit
            links := links.getD .rfcNumber
            layout := s.layout.getD .interleaved } }

/-! ## Inspecting -/

/-- The arguments of `inspect` that have been read so far. -/
structure InspectState where
  /-- The settings that every command has. -/
  common : Common := {}
  /-- The operand. -/
  grammar : Option String := none
  /-- The value of `--deps`. -/
  dependencies : Option String := none
  /-- Whether `--json` is given. -/
  json : Bool := false

/-- The arguments of `inspect`. -/
def inspectGrade : Grade InspectState where
  flags := commonFlags InspectState.common (fun s c => { s with common := c }) ++
    [("json", fun s => if s.json then .error .usage else .ok { s with json := true })]
  shorts := commonShorts
  options := commonOptions InspectState.common (fun s c => { s with common := c }) ++
    [("deps", fun value s =>
        (fun v => { s with dependencies := v }) <$> setOnce s.dependencies (pathValue value))]
  operand value s :=
    (fun v => { s with grammar := v }) <$> setOnce s.grammar (pathValue value)

/-- The command that the arguments of `inspect` amount to. -/
def InspectState.finish (s : InspectState) : Except Stop InspectArguments :=
  match s.grammar with
  | none => .error .usage
  | some grammar => .ok ⟨grammar, s.dependencies, s.json⟩

/-! ## All together -/

namespace Invocation

/-- What comes of asking for help, on the program or on one of its commands. -/
def helpStop (topics : List String) : Stop :=
  match topics with
  | [] => .help
  | [topic] => if ["render", "inspect", "help"].contains topic then .help else .usage
  | _ => .usage

/-- What the program is asked to do by its arguments and environment. -/
def parse (env : Environment) (args : List String) : Except Stop Invocation := do
  let (outer, name, rest) ← programGrade.readUpToOperand false args {}
  if name = "render" then
    let s ← renderGrade.read rest {}
    let arguments ← s.finish env
    .ok ⟨s.common.after outer, .render arguments⟩
  else if name = "inspect" then
    let s ← inspectGrade.read rest {}
    let arguments ← s.finish
    .ok ⟨s.common.after outer, .inspect arguments⟩
  else if name = "help" then .error (helpStop rest)
  else .error .usage

end Invocation

/-- The files that a command reads. -/
def Command.paths : Command → List String
  | .render a => a.grammar :: a.dependencies.toList
  | .inspect a => a.grammar :: a.dependencies.toList

end Abnf.Cli
