import RecordSync.Attribute.Mapper
import RecordSync.Change

set_option autoImplicit false

namespace RecordSync

namespace Mapper

def wanted? (mapped : Record) (name : String) : Option Value :=
  (Keyed.get? name mapped).filter fun v => !v.isEmpty

-- The change of one attribute. An attribute exists when the record has its key, even with null.
def change? (ensure : Ensure) (wanted current : Option Value) : Option Change :=
  match ensure, wanted, current with
  | .present, some value, none => some (.replace value)
  | .present, _, _ => none
  | .latest, some value, none => some (.replace value)
  | .latest, some value, some current =>
    if value.agrees current then none else some (.replace value)
  | .latest, none, some _ => some .remove
  | .latest, none, none => none
  | .absent, _, some _ => some .remove
  | .absent, _, none => none
  | .merge, some value, current =>
    let there := (current.map Value.elements).getD []
    let missing := value.elements.filter fun item => !item.containedIn there
    if missing.isEmpty then none else some (.add missing)
  | .merge, none, _ => none

def diff (m : Mapper) (mapped existing : Record) : Changes :=
  m.definitions.foldl (fun changes d =>
    match change? d.ensure (wanted? mapped d.name) (Keyed.get? d.name existing) with
    | some change => Keyed.insert d.name change changes
    | none => changes) []

end Mapper

end RecordSync
