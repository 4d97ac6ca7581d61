import RecordSync.Change
import RecordSync.Document.Comparison
import RecordSync.Filter
import RecordSync.Lookup

set_option autoImplicit false

namespace RecordSync

inductive EndpointError where
  | unreachable (message : String) (cause : Option String)
  | rejected (message : String)
  | notFound (identifier : String)
  | conflict (identifier : String)
  | invalidData (message : String)
  deriving DecidableEq, Repr

namespace EndpointError

def isTransient : EndpointError → Bool
  | .unreachable _ _ => true
  | _ => false

def hasCause : EndpointError → Bool
  | .unreachable _ cause => cause.isSome
  | _ => false

def code : EndpointError → String
  | .unreachable _ _ => "ENDPOINT_UNREACHABLE"
  | .rejected _ => "ENDPOINT_REJECTED"
  | .notFound _ => "ENDPOINT_OBJECT_NOT_FOUND"
  | .conflict _ => "ENDPOINT_OBJECT_CONFLICT"
  | .invalidData _ => "ENDPOINT_INVALID_DATA"

def message : EndpointError → String
  | .unreachable m _ => s!"endpoint unreachable: {m}"
  | .rejected m => s!"endpoint rejected the request: {m}"
  | .notFound id => s!"no endpoint object matches {id}"
  | .conflict id => s!"endpoint object {id} already exists"
  | .invalidData m => s!"malformed endpoint data: {m}"

end EndpointError

structure Endpoint where
  name : String
  rows : List Record
  -- Every export writes anew, so no row is ever looked up.
  flushRequired : Bool
  -- No filter can be answered.
  unresolvable : Bool
  -- Changes are told as replacements only.
  replaceOnly : Bool
  -- Created rows get no identifier.
  anonymous : Bool
  -- The identifier that a row gets with a change.
  changeUid : Option String
  -- An attribute whose values differ from row to row.
  unique : Option String

namespace Endpoint

def named (name : String) : Endpoint := ⟨name, [], false, false, false, false, none, none⟩

def lookup (e : Endpoint) (filter : Record) : Lookup Record :=
  if e.unresolvable then .unresolvable
  else Lookup.ofMatches (e.rows.filter fun row => (Filter.ofRecord filter).accepts row)

def collision? (e : Endpoint) (record : Record) : Option (String × Value) := do
  let name ← e.unique
  let value ← Keyed.get? name record
  if e.rows.any fun row => (Keyed.get? name row).any fun v => v.same value then
    return (name, value)
  else none

def create (e : Endpoint) (record : Record) : Except EndpointError (Option Uid × Endpoint) :=
  match e.collision? record with
  | some (name, value) => .error (.conflict (name ++ "=" ++ value.render))
  | none =>
    let e := { e with rows := e.rows ++ [record] }
    .ok (if e.anonymous then none else some (Uid.ofText (toString e.rows.length)), e)

def applyDelta (delta : Delta) (row : Record) : Record :=
  let row := delta.replace.foldl (fun row (k, v) => Keyed.insert k v row) row
  let row := delta.clear.foldl (fun row k => Keyed.erase k row) row
  delta.add.foldl (fun row (k, v) =>
    Keyed.insert k (((Keyed.get? k row).getD .null).union v) row) row

def isRow (record row : Record) : Bool :=
  (Value.object row).same (.object record)

def replaceFirst (existing : Record) (f : Record → Record) : List Record → Option (List Record)
  | [] => none
  | row :: rest =>
    if isRow existing row then some (f row :: rest)
    else (replaceFirst existing f rest).map (row :: ·)

def change (e : Endpoint) (delta : Delta) (existing : Record) :
    Except EndpointError (Option Uid × Endpoint) :=
  match replaceFirst existing (applyDelta delta) e.rows with
  | some rows => .ok (e.changeUid.map fun v => ⟨"dn", v⟩, { e with rows })
  | none => .error (.notFound "row")

def delete (e : Endpoint) (existing : Record) : Endpoint :=
  { e with rows := e.rows.filter fun row => !isRow existing row }

def nativeDelta (e : Endpoint) (changes : Changes) : Delta :=
  if e.replaceOnly then
    changes.foldl (fun d (name, c) => d.insertReplace name (c.value?.getD .null)) Delta.empty
  else Delta.ofChanges changes

end Endpoint

end RecordSync
