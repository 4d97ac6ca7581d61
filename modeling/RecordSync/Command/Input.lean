import RecordSync.Command.Error
import RecordSync.Workflow.Basic

set_option autoImplicit false

namespace RecordSync

-- What one run of a command finds. Reading a file may fail with a message. Expressions may look at the
-- clock and are held to a time limit, so another run may have other answers.
structure Surroundings where
  fileText : String → Except String String
  environment : Keyed String
  evaluator : Limits → Evaluator

namespace Surroundings

def fileName (path : String) : List Char :=
  (((Text.cut '/' path.toList).filter fun part => !part.isEmpty && part ≠ ['.']).getLast?).getD []

-- What follows the last dot of a name. The dot in front of a hidden file's name does not count.
def extension? (name : List Char) : Option (List Char) :=
  if name = ['.', '.'] then none
  else
    match (Text.cut '.' name).reverse with
    | last :: before :: earlier => if before.isEmpty && earlier.isEmpty then none else some last
    | _ => none

def isJson (path : String) : Bool :=
  ((extension? (fileName path)).map fun e => e.map Numeral.lowerAscii) = some ['j', 's', 'o', 'n']

def text (s : Surroundings) (path : String) : Except CommandError String :=
  (s.fileText path).mapError fun message => .unreadableFile path message

def workflow (lib : Libraries) (s : Surroundings) (path : String) :
    Except CommandError Workflow := do
  let source ← s.text path
  (if isJson path then Workflow.ofJson lib source else Workflow.ofYaml lib source).mapError .workflow

def record (lib : Libraries) (s : Surroundings) (path : String) : Except CommandError Record := do
  let source ← s.text path
  match Document.read source with
  | some (.object fields) => return fields
  | some _ => throw (.invalidInput path .notObject)
  | none => throw (.invalidInput path (.malformed (lib.jsonFault source)))

def limits (s : Surroundings) : Except CommandError Limits :=
  (Limits.ofEnvironment s.environment).mapError .limits

end Surroundings

end RecordSync
