import RecordSync.Limits
import RecordSync.Workflow.Error

set_option autoImplicit false

namespace RecordSync

inductive InputFault where
  -- The text of a record file is not JSON.
  | malformed (message : String)
  | notObject
  deriving DecidableEq, Repr

namespace InputFault

def message : InputFault → String
  | .malformed message => message
  | .notObject => "expected a JSON object"

end InputFault

inductive CommandError where
  | unreadableFile (path message : String)
  | invalidInput (path : String) (fault : InputFault)
  | workflow (e : WorkflowError)
  -- The expression at a place of the workflow does not compile.
  | expression (location message : String)
  | mapping (e : MappingError)
  | limits (e : LimitError)

namespace CommandError

def message : CommandError → String
  | .unreadableFile path message => s!"Cannot read {path}: {message}"
  | .invalidInput path fault => s!"Invalid input in {path}: {fault.message}"
  | .workflow e => s!"Invalid workflow: {e.message}"
  | .expression location message => s!"Invalid expression in {location}: {message}"
  | .mapping e => s!"Mapping failed: {e.message}"
  | .limits e => s!"Configuration error: {e.message}"

def exitCode : CommandError → Nat
  | .unreadableFile _ _ | .limits _ => 1
  | .invalidInput _ _ => 3
  | .workflow _ | .expression _ _ => 4
  | .mapping (.definition _ _) => 4
  | .mapping (.resolution _ _) => 5

def report (colored : Bool) (e : CommandError) : String :=
  let label := if colored then "\x1b[31mError:\x1b[0m" else "Error:"
  s!"{label} {e.message}\n"

end CommandError

end RecordSync
