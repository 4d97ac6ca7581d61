import RecordSync.Workflow.Error

set_option autoImplicit false

namespace RecordSync

inductive StoreCall where
  | lookup (collection : String) (filter : Filter) (includeData : Bool)
  | load (id : ObjectId)
  | create (collection : String) (data : Record) (simulate : Bool) (seed : Option StatusSeed)
  | change (id : ObjectId) (data : Record) (simulate : Bool) (seed : Option StatusSeed)
  | delete (id : ObjectId) (simulate : Bool)
  | relationsFrom (source : ObjectId)
  | createRelation (source target : ObjectId) (attributeName : String) (simulate : Bool)
  | updateRelation (id : RelationId) (target : ObjectId) (simulate : Bool)
  | deleteRelation (id : RelationId) (simulate : Bool)
  | stale (collection endpoint : String) (time : Timestamp)

inductive EndpointCall where
  | lookup (filter : Record) (names : List String)
  | create (record : Record)
  | change (delta : Delta) (record existing : Record)
  | delete (record existing : Record)
  | nativeDelta (changes : Changes)

inductive Call where
  | store (call : StoreCall)
  | endpoint (call : EndpointCall)

-- The failures to come. A call is told with the number of calls before it.
structure Faults where
  store : Nat → StoreCall → Option StoreError
  endpoint : Nat → EndpointCall → Option EndpointError

namespace Faults

def never : Faults := ⟨fun _ _ => none, fun _ _ => none⟩

end Faults

structure Session where
  store : Store
  endpoint : Endpoint
  calls : List Call
  faults : Faults

-- A computation on a session. What was done before an error stays done.
abbrev Sync (α : Type) := ExceptT WorkflowError (StateM Session) α

namespace Sync

variable {α : Type}

def logged (call : Call) (fault : Option WorkflowError) : Sync Unit := do
  modify fun s => { s with calls := s.calls ++ [call] }
  match fault with
  | some e => throw e
  | none => return ()

def storeCall (call : StoreCall) : Sync Unit := do
  let s ← get
  logged (.store call) ((s.faults.store s.calls.length call).map .store)

def endpointCall (call : EndpointCall) : Sync Unit := do
  let s ← get
  logged (.endpoint call) ((s.faults.endpoint s.calls.length call).map .endpoint)

def mapping (r : Except MappingError α) : Sync α :=
  match r with
  | .ok a => return a
  | .error e => throw (.mapping e)

def only (target : SearchTarget) : Lookup α → Sync (Option α)
  | .found a => return some a
  | .notFound | .unresolvable => return none
  | .multiple count => throw (.ambiguous target count)

def setStore (store : Store) : Sync Unit :=
  modify fun s => { s with store }

def setEndpoint (endpoint : Endpoint) : Sync Unit :=
  modify fun s => { s with endpoint }

def lookupObject (collection : String) (filter : Filter) (includeData : Bool) :
    Sync (Lookup CanonicalObject) := do
  storeCall (.lookup collection filter includeData)
  return (← get).store.lookup collection filter

def loadObject (id : ObjectId) : Sync (Option CanonicalObject) := do
  storeCall (.load id)
  return (← get).store.object? id

def createObject (collection : String) (data : Record) (simulate : Bool) (seed : StatusSeed) :
    Sync ObjectId := do
  storeCall (.create collection data simulate (some seed))
  let (id, store) := (← get).store.create collection data simulate (some seed)
  setStore store
  return id

def changeObject (id : ObjectId) (data : Record) (simulate : Bool) (seed : StatusSeed) :
    Sync Unit := do
  storeCall (.change id data simulate (some seed))
  match (← get).store.change id data simulate (some seed) with
  | .ok store => setStore store
  | .error e => throw (.store e)

def deleteObject (id : ObjectId) (simulate : Bool) : Sync Unit := do
  storeCall (.delete id simulate)
  setStore ((← get).store.delete id simulate)

def relationsFrom (source : ObjectId) : Sync (List Relation) := do
  storeCall (.relationsFrom source)
  return (← get).store.relationsFrom source

def createRelation (source target : ObjectId) (attributeName : String) (simulate : Bool) :
    Sync RelationId := do
  storeCall (.createRelation source target attributeName simulate)
  let (id, store) := (← get).store.createRelation source target attributeName simulate
  setStore store
  return id

def updateRelation (id : RelationId) (target : ObjectId) (simulate : Bool) : Sync Unit := do
  storeCall (.updateRelation id target simulate)
  setStore ((← get).store.updateRelation id target simulate)

def deleteRelation (id : RelationId) (simulate : Bool) : Sync Unit := do
  storeCall (.deleteRelation id simulate)
  setStore ((← get).store.deleteRelation id simulate)

def staleObjects (collection endpoint : String) (time : Timestamp) : Sync (List CanonicalObject) := do
  storeCall (.stale collection endpoint time)
  return (← get).store.stale collection endpoint time

def lookupRow (filter : Record) (names : List String) : Sync (Lookup Record) := do
  endpointCall (.lookup filter names)
  return (← get).endpoint.lookup filter

def createRow (record : Record) : Sync (Option Uid) := do
  endpointCall (.create record)
  match (← get).endpoint.create record with
  | .ok (uid, endpoint) =>
    setEndpoint endpoint
    return uid
  | .error e => throw (.endpoint e)

def changeRow (delta : Delta) (record existing : Record) : Sync (Option Uid) := do
  endpointCall (.change delta record existing)
  match (← get).endpoint.change delta existing with
  | .ok (uid, endpoint) =>
    setEndpoint endpoint
    return uid
  | .error e => throw (.endpoint e)

def deleteRow (record existing : Record) : Sync Unit := do
  endpointCall (.delete record existing)
  setEndpoint ((← get).endpoint.delete existing)

def nativeDelta (changes : Changes) : Sync Delta := do
  endpointCall (.nativeDelta changes)
  return (← get).endpoint.nativeDelta changes

end Sync

end RecordSync
