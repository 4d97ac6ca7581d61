import RecordSync.Attribute.Mapper
import RecordSync.Libraries
import RecordSync.Text.Blank

set_option autoImplicit false

namespace RecordSync

def Mapper.Resolvable (m : Mapper) (name : String) : Prop :=
  ∃ d, m.find? name = some d ∧ d.ensure ≠ .absent

structure Workflow where
  name : String
  collection : String
  endpoint : String
  ensure : Ensure
  condition : Option String
  identifiers : List String
  mapper : Mapper
  ensure_ne_merge : ensure ≠ .merge
  resolvable : ∀ i ∈ identifiers, mapper.Resolvable i

namespace Workflow

def identifierFault? (m : Mapper) (name : String) : Option WorkflowFault :=
  match m.find? name with
  | some d => if d.ensure = .absent then some (.identifierAbsent name) else none
  | none => some (.identifierUnknown name)

theorem identifierFault?_eq_none_iff (m : Mapper) (name : String) :
    identifierFault? m name = none ↔ m.Resolvable name := by
  unfold identifierFault? Mapper.Resolvable
  cases h : m.find? name with
  | none => simp
  | some d => by_cases ha : d.ensure = .absent <;> simp [ha]

def blankField? (spec : WorkflowSpec) : Option WorkflowFault :=
  if Text.isBlankText spec.collection then some (.emptyField "collection")
  else if Text.isBlankText spec.endpoint then some (.emptyField "endpoint")
  else none

def ofSpec (compile : Pattern.Compiler) (spec : WorkflowSpec) : Except WorkflowError Workflow := do
  if Text.isBlankText spec.name then throw (.configuration "<unnamed>" .emptyName)
  match blankField? spec with
  | some fault => throw (.configuration spec.name fault)
  | none => pure ()
  if he : spec.ensure = .merge then throw (.configuration spec.name .mergesObjects)
  else
    match Mapper.ofRecord compile spec.attributes with
    | .error e => throw (.mapping e)
    | .ok mapper =>
      match hi : spec.identifiers.findSome? (identifierFault? mapper) with
      | some fault => throw (.configuration spec.name fault)
      | none =>
        return {
          name := spec.name
          collection := spec.collection
          endpoint := spec.endpoint
          ensure := spec.ensure
          condition := spec.condition.filter fun c => !Text.isBlankText c
          identifiers := spec.identifiers
          mapper := mapper
          ensure_ne_merge := he
          resolvable := fun i h =>
            (identifierFault?_eq_none_iff mapper i).1 (List.findSome?_eq_none_iff.1 hi i h) }

def ofJson (lib : Libraries) (text : String) : Except WorkflowError Workflow := do
  ofSpec lib.compile (← WorkflowSpec.ofJson lib.jsonFault text)

def ofYaml (lib : Libraries) (text : String) : Except WorkflowError Workflow := do
  ofSpec lib.compile (← WorkflowSpec.ofYaml lib.readYaml text)

end Workflow

end RecordSync
