import RecordSync.Command.Input

set_option autoImplicit false

namespace RecordSync

structure Located where
  location : String
  code : String
  deriving DecidableEq, Repr

namespace AttributeDefinition

def expressions (location : String) : AttributeDefinition → List Located
  | ⟨_, sources, _, _, _, _, _, unwind, _⟩ =>
    let own := sources.filterMap fun source =>
      match source with
      | .expression code => some ⟨s!"attribute '{location}'", code⟩
      | .literal _ | .path _ => none
    own ++ match unwind with
      | some nested => expressions s!"{location}.unwind" nested
      | none => []

end AttributeDefinition

namespace Workflow

def expressions (w : Workflow) : List Located :=
  (w.condition.toList.map fun code => ⟨"condition", code⟩) ++
    w.mapper.definitions.flatMap fun d => d.expressions d.name

end Workflow

structure Validation where
  name : String
  collection : String
  endpoint : String
  ensure : Ensure
  identifiers : List String
  attributeNames : List String
  relations : List String
  expressions : Nat
  deriving DecidableEq, Repr

namespace Validation

def ofWorkflow (w : Workflow) : Validation where
  name := w.name
  collection := w.collection
  endpoint := w.endpoint
  ensure := w.ensure
  identifiers := w.identifiers
  attributeNames := w.mapper.names
  relations := w.mapper.related.map AttributeDefinition.name
  expressions := w.expressions.length

def toValue (v : Validation) : Value :=
  .object [("name", .string v.name), ("collection", .string v.collection),
    ("endpoint", .string v.endpoint), ("ensure", v.ensure.toValue),
    ("identifiers", .ofStrings v.identifiers), ("attributes", .ofStrings v.attributeNames),
    ("relations", .ofStrings v.relations), ("expressions", .ofNat v.expressions)]

def list (names : List String) : String := ", ".intercalate names

def lines (v : Validation) : List String :=
  [s!"Workflow '{v.name}' is valid", s!"  collection:  {v.collection}",
    s!"  endpoint:    {v.endpoint}", s!"  ensure:      {v.ensure.render}"] ++
  (if v.identifiers.isEmpty then [] else [s!"  identifiers: {list v.identifiers}"]) ++
  [s!"  attributes:  {list v.attributeNames}"] ++
  (if v.relations.isEmpty then [] else [s!"  relations:   {list v.relations}"])

end Validation

-- The first expression that does not compile is told.
def validate (lib : Libraries) (s : Surroundings) (file : String) :
    Except CommandError Validation := do
  let w ← s.workflow lib file
  match w.expressions.findSome? fun e =>
      (lib.scriptFault? Limits.default e.code).map fun message => (e.location, message) with
  | some (location, message) => throw (.expression location message)
  | none => return Validation.ofWorkflow w

end RecordSync
