/-!
# Arguments

The arguments of a program are flags, options with a value, and operands.  A value follows its
option, or is joined to it by an equals sign; short flags may be joined to each other; after `--`
there are operands only.  Each argument is applied to a state, and the first one that makes no
sense ends the reading.
-/

namespace Abnf.Cli

/-- Why the reading of arguments ends early. -/
inductive Stop where
  /-- The arguments make no sense. -/
  | usage
  /-- The version is asked for. -/
  | version
  /-- Help is asked for. -/
  | help
deriving DecidableEq, Repr

/-- The arguments that are understood, and what they do to a state. -/
structure Grade (σ : Type) where
  /-- The flags by their long names. -/
  flags : List (String × (σ → Except Stop σ))
  /-- The long names of short flags. -/
  shorts : List (Char × String)
  /-- The options by name. -/
  options : List (String × (String → σ → Except Stop σ))
  /-- What an operand does. -/
  operand : String → σ → Except Stop σ

/-- Gives a setting a value, unless it has one. -/
def setOnce (current : Option α) (value : Option α) : Except Stop (Option α) :=
  if current.isSome || value.isNone then .error .usage else .ok value

/-- Whether an argument is a flag or an option. -/
def isOption (arg : String) : Bool :=
  match arg.toList with
  | '-' :: _ :: _ => true
  | _ => false

/-- An option's name and, if it is joined to it, its value. -/
def splitOption (name : List Char) : String × Option String :=
  match name.dropWhile (· ≠ '=') with
  | [] => (String.ofList name, none)
  | _ :: value => (String.ofList (name.takeWhile (· ≠ '=')), some (String.ofList value))

namespace Grade

/-- Applies a flag. -/
def applyFlag (g : Grade σ) (s : σ) (name : String) : Except Stop σ :=
  match g.flags.lookup name with
  | some f => f s
  | none => .error .usage

/-- Applies a short flag. -/
def applyShort (g : Grade σ) (s : σ) (c : Char) : Except Stop σ :=
  match g.shorts.lookup c with
  | some name => g.applyFlag s name
  | none => .error .usage

/-- Applies a flag or an option, which may take the argument after it as its value.  Whether it did
is told with the new state. -/
def apply (g : Grade σ) (arg : String) (following : Option String) (s : σ) :
    Except Stop (σ × Bool) :=
  match arg.toList with
  | '-' :: '-' :: long =>
    let (name, joined) := splitOption long
    match g.options.lookup name, joined, following with
    | some f, some value, _ => (·, false) <$> f value s
    | some f, none, some value =>
      if isOption value then .error .usage else (·, true) <$> f value s
    | some _, none, none => .error .usage
    | none, some _, _ => .error .usage
    | none, none, _ => (·, false) <$> g.applyFlag s name
  | _ :: shorts => (·, false) <$> shorts.foldlM g.applyShort s
  | [] => .error .usage

/-- Reads all arguments.  The first one is left out if it has been taken as a value. -/
def readFrom (g : Grade σ) : Bool → List String → σ → Except Stop σ
  | _, [], s => .ok s
  | true, _ :: rest, s => g.readFrom false rest s
  | false, arg :: rest, s =>
    if arg = "--" then rest.foldlM (fun s arg => g.operand arg s) s
    else if isOption arg then do
      let (s, tookNext) ← g.apply arg rest.head? s
      g.readFrom tookNext rest s
    else do
      let s ← g.operand arg s
      g.readFrom false rest s

/-- Reads all arguments. -/
def read (g : Grade σ) (args : List String) (s : σ) : Except Stop σ := g.readFrom false args s

/-- Reads the flags and options in front of the first operand, which has to be there.  The first
argument is left out if it has been taken as a value. -/
def readUpToOperand (g : Grade σ) : Bool → List String → σ →
    Except Stop (σ × String × List String)
  | _, [], _ => .error .usage
  | true, _ :: rest, s => g.readUpToOperand false rest s
  | false, arg :: rest, s =>
    if arg = "--" then .error .usage
    else if isOption arg then do
      let (s, tookNext) ← g.apply arg rest.head? s
      g.readUpToOperand tookNext rest s
    else .ok (s, arg, rest)

end Grade

end Abnf.Cli
