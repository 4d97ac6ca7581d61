import RecordSync.Attribute.Mapper

set_option autoImplicit false

namespace RecordSync

namespace Mapper

def mergeOne (mapped merged : Record) (d : AttributeDefinition) : Record :=
  let incoming := (Path.getIn mapped d.name).filter fun v => !v.isEmpty
  let current := Path.getIn merged d.name
  let write (v : Value) : Record :=
    match Path.setIn merged d.name v with
    | .ok (fields, _) => fields
    | .error _ => merged
  match d.ensure with
  | .absent => (Path.removeIn merged d.name).1
  | .merge =>
    match incoming with
    | some v => write (match current with
      | some c => c.union v
      | none => v)
    | none => merged
  | ensure =>
    if ensure = .present && current.isSome then merged
    else
      match incoming with
      | some v => write v
      | none => (Path.removeIn merged d.name).1

-- Mapped values joined onto a record as each attribute asks. Other keys stay as they are; a value
-- that cannot be written at its path is left out.
def merge (m : Mapper) (mapped base : Record) : Record :=
  m.definitions.foldl (mergeOne mapped) base

end Mapper

end RecordSync
