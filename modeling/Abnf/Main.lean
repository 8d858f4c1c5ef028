import Abnf.Cli.Run
import Abnf.Text.Table

/-!
# The program

Looks at the environment and at the files that the command names, runs the command on what it has
found, and writes the result to the two streams.
-/

namespace Abnf.Cli

/-- How the program is called. -/
def usageText : String :=
  "Usage: abnfview [--color auto|always|never] [-v] COMMAND\n" ++
  "  render GRAMMAR [--deps FILE] [--format html|text|json|railroad] [--rule NAME]\n" ++
  "      [--diagrams skip-foreign|always] [--layout interleaved|grouped] [--no-labels]\n" ++
  "      [--link-style rfc-number|verbatim] [--max-depth N]\n" ++
  "  inspect GRAMMAR [--deps FILE] [--json]\n"

/-- Tables without colours, and the same short text about the arguments on every occasion. -/
def plainPresentation : Presentation where
  table := Text.table
  complaint _ := usageText
  help _ := usageText

/-- The names of the environment variables that matter. -/
def variableNames : List String :=
  ["ABNFVIEW_DIAGRAMS", "ABNFVIEW_LINK_STYLE", "RUST_LOG"] ++ Environment.colourVariables

/-- The variables that matter, as they are set. -/
def environment : IO Environment :=
  variableNames.filterMapM fun name => do
    let value ← IO.getEnv name
    return value.map fun value => (name, value)

/-- Looks at a file. -/
def look (path : String) : IO Reading := do
  try
    let bytes ← IO.FS.readBinFile path
    match String.fromUTF8? bytes with
    | some content => return .text content
    | none => return .unreadable "stream did not contain valid UTF-8"
  catch
    | .noFileOrDirectory .. => return .missing
    | e => return .unreadable (toString e)

/-- Looks at some files. -/
def lookAll (paths : List String) : IO (List (String × Reading)) :=
  paths.mapM fun path => do
    let reading ← look path
    return (path, reading)

end Abnf.Cli

open Abnf.Cli in
/-- Runs the program. -/
def main (args : List String) : IO UInt32 := do
  let env ← environment
  let paths :=
    match Invocation.parse env args with
    | .ok invocation => invocation.command.paths
    | .error _ => []
  let found ← lookAll paths
  let result := run plainPresentation (fun path => (found.lookup path).getD .missing) env args
  IO.eprint result.stderr
  IO.print result.stdout
  return result.code.toUInt32
