import Abnf.Cli.Invocation

/-!
# Colours

Whether messages are coloured where the command line does not say so.  The environment may demand
it.  Otherwise the error stream would have to be a terminal; it never counts as one by itself, only
where the environment says that this does not matter, and then the kind of the terminal decides.
-/

namespace Abnf.Cli

namespace Environment

/-- Whether a variable is set to anything but zero. -/
def isOn (env : Environment) (name : String) : Bool := (env.lookup name).any (· ≠ "0")

/-- Whether a variable is set to one of the given values. -/
def isOneOf (env : Environment) (name : String) (values : List String) : Bool :=
  (env.lookup name).any values.contains

/-- Whether colours are demanded.  Of the two variables for that, the first one decides if it is
set: by its truth value or as a number, where anything else counts as true. -/
def demandsColours (env : Environment) : Bool :=
  match env.lookup "FORCE_COLOR" with
  | some value => value ≠ "false" && numberValue value ≠ some 0
  | none => isOn env "CLICOLOR_FORCE"

/-- Whether the name of a kind of terminals tells that they show colours. -/
def isColourTerminal (name : String) : Bool :=
  ["256", "256color", "direct", "truecolor"].any (name.endsWith ·) ||
    ["screen", "xterm", "vt100", "vt220", "rxvt"].any (name.startsWith ·) ||
    ["color", "ansi", "cygwin", "linux"].any fun part => 1 < (name.splitOn part).length

/-- Whether colours are refused, or there is no sign of a terminal. -/
def refusesColours (env : Environment) : Bool :=
  isOn env "NO_COLOR" || isOneOf env "TERM" ["dumb"] || !isOn env "IGNORE_IS_TERMINAL"

/-- Whether there is a sign that colours can be shown. -/
def allowsColours (env : Environment) : Bool :=
  (env.lookup "COLORTERM").isSome || (env.lookup "TERM").any isColourTerminal ||
    isOneOf env "TERM_PROGRAM" ["iTerm.app", "Apple_Terminal"] || isOn env "CLICOLOR" ||
    isOneOf env "CI" ["true", "1", "woodpecker"]

/-- Whether messages are coloured. -/
def wantsColours (env : Environment) : Bool :=
  demandsColours env || (!refusesColours env && allowsColours env)

/-- The names of the variables that decide about colours. -/
def colourVariables : List String :=
  ["FORCE_COLOR", "CLICOLOR_FORCE", "NO_COLOR", "TERM", "IGNORE_IS_TERMINAL", "COLORTERM",
    "TERM_PROGRAM", "CLICOLOR", "CI"]

end Environment

end Abnf.Cli
