import RecordSync.Attribute.Spec
import RecordSync.Document.Reader
import RecordSync.Workflow.Error

set_option autoImplicit false

namespace RecordSync

structure WorkflowSpec where
  name : String
  collection : String
  endpoint : String
  ensure : Ensure
  condition : Option String
  identifiers : List String
  attributes : Record
  deriving DecidableEq

namespace WorkflowSpec

def blank : WorkflowSpec := ⟨"", "", "", .latest, none, [], []⟩

def shape : Shape :=
  ⟨"WorkflowSpec",
    ["name", "collection", "endpoint", "ensure", "condition", "identifiers", "attributes"],
    ["name", "collection", "endpoint"], true⟩

def put (origin : Origin) (name : String) (v : Value) (spec : WorkflowSpec) :
    Decoded WorkflowSpec := do
  match name with
  | "name" => return { spec with name := ← Decode.string v }
  | "collection" => return { spec with collection := ← Decode.string v }
  | "endpoint" => return { spec with endpoint := ← Decode.string v }
  | "ensure" => return { spec with ensure := ← Ensure.ofValue origin v }
  | "condition" => return { spec with condition := ← Decode.option Decode.string v }
  | "identifiers" => return { spec with identifiers := ← Decode.list Decode.string v }
  | _ => return { spec with attributes := ← Decode.record v.collectKeys }

def ofValue (origin : Origin) : Value → Decoded WorkflowSpec :=
  shape.read origin (put origin) blank

-- Keys at the top level of a JSON document must not repeat. Of a text that is not JSON, the error holds
-- what is said of it.
def ofJson (jsonFault : String → String) (text : String) : Except WorkflowError WorkflowSpec :=
  match Document.readEntries text with
  | none => .error (.configuration "<document>" (.malformed (jsonFault text)))
  | some v =>
    match ofValue .text v with
    | .ok spec => .ok spec
    | .error e => .error (.configuration "<document>" (.unreadable e))

def ofYaml (readYaml : String → Except String WorkflowSpec) (text : String) :
    Except WorkflowError WorkflowSpec :=
  (readYaml text).mapError fun message => .configuration "<document>" (.malformed message)

def toValue (spec : WorkflowSpec) : Value :=
  .object <| [("name", .string spec.name), ("collection", .string spec.collection),
    ("endpoint", .string spec.endpoint), ("ensure", spec.ensure.toValue)] ++
    AttributeSpec.optional "condition" (spec.condition.map .string) ++
    (if spec.identifiers.isEmpty then [] else [("identifiers", .ofStrings spec.identifiers)]) ++
    [("attributes", .object spec.attributes)]

end WorkflowSpec

end RecordSync
