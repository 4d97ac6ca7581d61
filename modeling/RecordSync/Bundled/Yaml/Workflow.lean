import RecordSync.Bundled.Yaml.Reader
import RecordSync.Workflow.Spec

set_option autoImplicit false

namespace RecordSync.Yaml

def maxDepth : Nat := 128

-- Text fields take the text of any scalar; lists and mappings may be left blank.
def field? (name : String) (node : Yaml) : Option Value :=
  match name with
  | "condition" =>
    match node with
    | .plain text => some (if isNullText text then .null else .string text)
    | other => other.text?.map .string
  | "identifiers" =>
    match node with
    | .sequence items => (items.mapM text?).map .ofStrings
    | other => if other.isBlank then some (.array []) else none
  | "attributes" =>
    match node with
    | .mapping _ => node.toValue?.filter fun v => v.depth < maxDepth
    | other => if other.isBlank then some (.object []) else none
  | _ => node.text?.map .string

def fields? : Yaml → Option Value
  | .mapping entries =>
    (entries.mapM fun (k, node) => (field? k node).map fun v => (k, v)).map .object
  | .sequence items =>
    let names := WorkflowSpec.shape.fields
    if names.length < items.length then none
    else ((names.zip items).mapM fun (k, node) => field? k node).map .array
  | _ => none

def readWorkflow? (text : String) : Option WorkflowSpec := do
  let v ← (read text).bind fields?
  (WorkflowSpec.ofValue .text v).toOption

end RecordSync.Yaml
