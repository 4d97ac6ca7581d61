import RecordSync.Limits
import RecordSync.Pattern
import RecordSync.Workflow.Spec

set_option autoImplicit false

namespace RecordSync

-- What is left to the code of others. It answers a question alike whenever it is asked.
structure Libraries where
  compile : Pattern.Compiler
  -- What is said of a text that is not JSON.
  jsonFault : String → String
  readYaml : String → Except String WorkflowSpec
  -- What keeps an expression from compiling, if anything does. Its variables are not known yet.
  scriptFault? : Limits → String → Option String

-- Libraries that know one YAML text and no pattern, and let every expression pass.
def Libraries.knowing (text : String) (spec : WorkflowSpec) : Libraries where
  compile := Pattern.among []
  jsonFault _ := "expected value at line 1 column 1"
  readYaml given := if given = text then .ok spec else .error "did not find expected node content"
  scriptFault? _ _ := none

end RecordSync
