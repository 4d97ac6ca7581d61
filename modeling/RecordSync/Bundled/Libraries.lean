import RecordSync.Bundled.Regex.Search
import RecordSync.Bundled.Script.Evaluator
import RecordSync.Bundled.Yaml.Workflow
import RecordSync.Libraries

set_option autoImplicit false

namespace RecordSync

-- What comes with the program: much of each language, but not all of it.
def Libraries.bundled : Libraries where
  compile := Regex.compile
  jsonFault _ := "the text is not JSON"
  readYaml text :=
    match Yaml.readWorkflow? text with
    | some spec => .ok spec
    | none => .error "the text is no workflow in the part of YAML that is known here"
  scriptFault? limits code :=
    if Script.isValid limits code then none else some "the script cannot be read"

end RecordSync
