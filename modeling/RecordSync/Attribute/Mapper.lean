import RecordSync.Attribute.Resolution

set_option autoImplicit false

namespace RecordSync

structure Mapper where
  definitions : List AttributeDefinition
  distinct : (definitions.map AttributeDefinition.name).Nodup

namespace Mapper

def repeated? (seen : List String) : List AttributeDefinition → Option String
  | [] => none
  | d :: ds => if seen.contains d.name then some d.name else repeated? (seen ++ [d.name]) ds

def ofDefinitions (ds : List AttributeDefinition) : Except MappingError Mapper :=
  if h : (ds.map AttributeDefinition.name).Nodup then .ok ⟨ds, h⟩
  else .error (.definition ((repeated? [] ds).getD "") .duplicateName)

def ofRecord (compile : Pattern.Compiler) (specs : Record) : Except MappingError Mapper := do
  ofDefinitions (← AttributeDefinition.ofRecord compile specs)

def find? (m : Mapper) (name : String) : Option AttributeDefinition :=
  m.definitions.find? fun d => d.name = name

def names (m : Mapper) : List String :=
  m.definitions.map AttributeDefinition.name

def related (m : Mapper) : List AttributeDefinition :=
  m.definitions.filter fun d => d.relation.isSome

def mapAll (evaluate : Evaluator) (record : Record) :
    List AttributeDefinition → Except MappingError Record
  | [] => .ok []
  | d :: ds => do
    let value ← d.resolve evaluate false record
    let rest ← mapAll evaluate record ds
    return match value with
      | some v => (d.name, v) :: rest
      | none => rest

def map (m : Mapper) (evaluate : Evaluator) (record : Record) : Except MappingError Record :=
  mapAll evaluate record m.definitions

end Mapper

end RecordSync
