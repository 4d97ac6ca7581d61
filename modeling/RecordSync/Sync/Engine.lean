import RecordSync.Attribute.Difference
import RecordSync.Attribute.Merge
import RecordSync.Sync.Outcome
import RecordSync.Sync.Relations
import RecordSync.Workflow.Basic

set_option autoImplicit false

namespace RecordSync

namespace Workflow

def relationsKey : String := "relations"

def fail {α : Type} (w : Workflow) (fault : WorkflowFault) : Sync α :=
  throw (.configuration w.name fault)

def checkEndpoint (w : Workflow) : Sync Unit := do
  let actual := (← get).endpoint.name
  if actual ≠ w.endpoint then w.fail (.otherEndpoint w.endpoint actual)

-- Whether the condition lets a record pass. A condition that cannot be evaluated does not.
def admits (w : Workflow) (evaluate : Evaluator) (context : Record) : Bool :=
  match w.condition with
  | none => true
  | some code =>
    match evaluate.condition code context with
    | .ok passed => passed
    | .error _ => false

def seed (w : Workflow) (status : SyncStatus) : StatusSeed := ⟨w.endpoint, status⟩

def identity (mapped : Record) : List String → Except String Record
  | [] => .ok []
  | name :: names =>
    match Keyed.get? name mapped with
    | none => .error name
    | some value => (identity mapped names).map fun rest => (name, value) :: rest

def identifierFilter (w : Workflow) (mapped : Record) : Sync Filter :=
  if w.identifiers.isEmpty then w.fail .noIdentifier
  else
    match identity mapped w.identifiers with
    | .ok key => return Filter.ofRecord (Keyed.collect key)
    | .error name => w.fail (.identifierUnresolved name)

def written (changed : Bool) (edges : EdgeChanges) : Outcome :=
  if changed || !edges.isEmpty then .updated else .unchanged

def overwrite (w : Workflow) (object : CanonicalObject) (merged : Record) (status : SyncStatus)
    (simulate : Bool) : Sync Outcome := do
  Sync.changeObject object.id merged simulate (w.seed status)
  let edges ← Relations.reconcile w.mapper object.id merged simulate
  return written (!Record.agrees merged object.data) edges

def remove (id : ObjectId) (simulate : Bool) : Sync Outcome := do
  let _ ← Relations.removeAll id simulate
  Sync.deleteObject id simulate
  return .deleted

def place (w : Workflow) (collection : String) (mapped : Record) (time : Timestamp)
    (simulate : Bool) (there : Option CanonicalObject) : Sync Outcome :=
  match w.ensure.step there with
  | .create => do
    let id ← Sync.createObject collection mapped simulate (w.seed (.synced time))
    if !simulate then
      let _ ← Relations.reconcile w.mapper id mapped simulate
    return .created
  | .update object =>
    w.overwrite object (w.mapper.merge mapped object.data) (.synced time) simulate
  | .delete object => remove object.id simulate
  | .nothing => return .unchanged

def importRecord (w : Workflow) (evaluate : Evaluator) (collection : String) (record : Record)
    (time : Timestamp) (simulate : Bool) : Sync Outcome := do
  w.checkEndpoint
  if !w.admits evaluate record then return .skipped
  let mapped ← Sync.mapping (w.mapper.map evaluate record)
  let filter ← w.identifierFilter mapped
  let there ← Sync.only (.canonical collection) (← Sync.lookupObject collection filter true)
  w.place collection mapped time simulate there

def fullIdentity? (mapped : Record) : List String → Option Record
  | [] => some []
  | name :: names =>
    match (Keyed.get? name mapped).filter fun v => !v.isEmpty with
    | none => none
    | some value => (fullIdentity? mapped names).map fun rest => (name, value) :: rest

-- What an endpoint's row is searched by: the identifiers, or the whole record without any. An empty
-- search finds nothing and is not made.
def rowFilter? (w : Workflow) (mapped : Record) : Option Record :=
  let key := if w.identifiers.isEmpty then some mapped
    else (fullIdentity? mapped w.identifiers).map Keyed.collect
  key.filter fun r => !r.isEmpty

def counterpart? (w : Workflow) (mapped : Record) : Sync (Option Record) := do
  if (← get).endpoint.flushRequired then return none
  match w.rowFilter? mapped with
  | none => return none
  | some key => Sync.only (.endpointObject w.endpoint) (← Sync.lookupRow key w.mapper.names)

def stamp (w : Workflow) (object : CanonicalObject) (time : Timestamp) (result : String)
    (id : Option String) (simulate : Bool) : Sync Unit :=
  Sync.changeObject object.id object.data simulate (w.seed ⟨time, false, some result, id⟩)

def identifierAfter (uid : Option Uid) (previous : Option String) : Option String :=
  (uid.map Uid.value).or previous

def admitsExport (w : Workflow) (evaluate : Evaluator) (object : CanonicalObject) : Sync Bool := do
  if w.condition.isNone then return true
  let related ← Relations.relatedData object.id
  return w.admits evaluate (Keyed.insert relationsKey (.object related) object.data)

def deliver (w : Workflow) (object : CanonicalObject) (mapped : Record) (time : Timestamp)
    (simulate : Bool) (there : Option Record) : Sync Outcome :=
  let previous := (object.statusFor w.endpoint).bind SyncStatus.id
  match w.ensure.step there with
  | .create => do
    let uid ← if simulate then pure none else Sync.createRow mapped
    w.stamp object time "created" (identifierAfter uid previous) simulate
    return .created
  | .update current => do
    let changes := w.mapper.diff mapped current
    if changes.isEmpty then
      w.stamp object time "unchanged" previous simulate
      return .unchanged
    else
      let delta ← Sync.nativeDelta changes
      let uid ← if simulate then pure none else Sync.changeRow delta mapped current
      w.stamp object time "updated" (identifierAfter uid previous) simulate
      return .updated
  | .delete current => do
    if !simulate then Sync.deleteRow mapped current
    w.stamp object time "deleted" none simulate
    return .deleted
  | .nothing => return .unchanged

def exportObject (w : Workflow) (evaluate : Evaluator) (object : CanonicalObject) (time : Timestamp)
    (simulate : Bool) : Sync Outcome := do
  w.checkEndpoint
  if !(← w.admitsExport evaluate object) then return .skipped
  let mapped ← Sync.mapping (w.mapper.map evaluate object.data)
  let there ← w.counterpart? mapped
  w.deliver object mapped time simulate there

def cleanUp (w : Workflow) (evaluate : Evaluator) (object : CanonicalObject) (time : Timestamp)
    (simulate : Bool) : Sync Outcome := do
  w.checkEndpoint
  if !w.admits evaluate object.data then return .skipped
  match w.ensure with
  | .absent => remove object.id simulate
  | .latest => w.overwrite object (w.mapper.merge object.data object.data) (.gone time) simulate
  | .present | .merge => return .unchanged

end Workflow

end RecordSync
