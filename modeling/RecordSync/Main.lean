import RecordSync.Bundled.Libraries
import RecordSync.Command.Arguments

set_option autoImplicit false

namespace RecordSync.Program

def readFailure : IO.Error → String
  | .noFileOrDirectory _ _ _ => "No such file or directory (os error 2)"
  | e => toString e

def readFile (path : String) : IO (Except String String) := do
  try
    return .ok (← IO.FS.readFile path)
  catch e =>
    return .error (readFailure e)

def variableNames : List String := ["SYNCLINE_EXPR_TIMEOUT_MS", "SYNCLINE_EXPR_MAX_OPERATIONS"]

def environment : IO (Keyed String) :=
  variableNames.filterMapM fun name => do
    return (← IO.getEnv name).map fun text => (name, text)

-- The clock is not read: a millisecond of the time limit stands for so many operations.
def pace : Nat := 10000

def surroundings (command : Command) : IO Surroundings := do
  let files ← command.paths.mapM fun path => do
    return (path, ← readFile path)
  return {
    fileText := fun path => (Keyed.get? path files).getD (.error "not read")
    environment := ← environment
    evaluator := Script.evaluator pace }

def run (command : Command) (style : Style) : IO UInt32 := do
  match command.run .bundled (← surroundings command) style with
  | .ok output =>
    IO.print output
    return 0
  | .error e =>
    IO.eprint (e.report (← IO.getEnv "NO_COLOR").isNone)
    return e.exitCode.toUInt32

end RecordSync.Program

def main (args : List String) : IO UInt32 := do
  match RecordSync.Arguments.read .blank args with
  | .error word =>
    IO.eprintln s!"error: unexpected argument '{word}'\n\n{RecordSync.Arguments.usage}"
    return 2
  | .ok given =>
    match given.command? with
    | some command => RecordSync.Program.run command given.style
    | none =>
      IO.eprintln RecordSync.Arguments.usage
      return 2
