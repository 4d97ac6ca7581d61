import RecordSync.Proofs.Contents
import RecordSync.Sync.Engine

set_option autoImplicit false

namespace RecordSync

namespace Ensure

variable {α : Type} {ensure : Ensure} {there : Option α} {a : α}

theorem step_eq_create (step : ensure.step there = .create) : there = none ∧ ensure ≠ .absent := by
  cases ensure <;> cases there <;> simp_all [Ensure.step]

theorem step_eq_update (step : ensure.step there = .update a) :
    there = some a ∧ ensure = .latest := by
  cases ensure <;> cases there <;> simp_all [Ensure.step]

theorem step_eq_delete (step : ensure.step there = .delete a) :
    there = some a ∧ ensure = .absent := by
  cases ensure <;> cases there <;> simp_all [Ensure.step]

end Ensure

namespace Faults

def Calm (f : Faults) : Prop := ∀ n call, f.store n call = none

-- The store answers every call or none at all, and the endpoint answers every lookup.
structure Steady (f : Faults) : Prop where
  store : (∀ n call, f.store n call = none) ∨ ∀ n call, f.store n call ≠ none
  lookup : ∀ n filter names, f.endpoint n (.lookup filter names) = none

def Answered (f : Faults) : Prop := ∃ n call, f.store n call = none

theorem Steady.calm {f : Faults} (steady : f.Steady) (answered : f.Answered) : f.Calm := by
  obtain ⟨n, call, none⟩ := answered
  exact steady.store.resolve_right fun never => never n call none

end Faults

namespace Session

def logged (s : Session) (call : Call) : Session := { s with calls := s.calls ++ [call] }

@[simp] theorem logged_store (s : Session) (call : Call) : (s.logged call).store = s.store := rfl

@[simp] theorem logged_endpoint (s : Session) (call : Call) :
    (s.logged call).endpoint = s.endpoint := rfl

def Calm (s : Session) : Prop := s.faults.Calm

def writesRows : Call → Bool
  | .endpoint (.create _) | .endpoint (.change _ _ _) | .endpoint (.delete _ _) => true
  | _ => false

structure OnlyStore (s t : Session) : Prop where
  endpoint : t.endpoint = s.endpoint
  faults : t.faults = s.faults

theorem OnlyStore.trans {s t u : Session} (first : OnlyStore s t) (second : OnlyStore t u) :
    OnlyStore s u :=
  ⟨second.endpoint.trans first.endpoint, second.faults.trans first.faults⟩

-- No row was written, and no call asked for it.
structure KeepsRows (s t : Session) : Prop extends OnlyStore s t where
  calls : ∃ log, t.calls = s.calls ++ log ∧ ∀ call ∈ log, writesRows call = false

theorem KeepsRows.trans {s t u : Session} (first : KeepsRows s t) (second : KeepsRows t u) :
    KeepsRows s u := by
  obtain ⟨before, beforeCalls, beforeRead⟩ := first.calls
  obtain ⟨after, afterCalls, afterRead⟩ := second.calls
  refine ⟨first.toOnlyStore.trans second.toOnlyStore, before ++ after, ?_, ?_⟩
  · rw [afterCalls, beforeCalls, List.append_assoc]
  · intro call member
    exact (List.mem_append.1 member).elim (beforeRead call) (afterRead call)

structure Unmoved (s t : Session) : Prop extends KeepsRows s t where
  store : t.store = s.store

theorem Unmoved.refl (s : Session) : Unmoved s s :=
  ⟨⟨⟨rfl, rfl⟩, [], (List.append_nil _).symm, fun _ member => nomatch member⟩, rfl⟩

theorem Unmoved.trans {s t u : Session} (first : Unmoved s t) (second : Unmoved t u) :
    Unmoved s u :=
  ⟨first.toKeepsRows.trans second.toKeepsRows, second.store.trans first.store⟩

theorem unmoved_logged (s : Session) (call : Call) (read : writesRows call = false) :
    Unmoved s (s.logged call) :=
  ⟨⟨⟨rfl, rfl⟩, [call], rfl, fun _ member => List.mem_singleton.1 member ▸ read⟩, rfl⟩

theorem OnlyStore.calm {s t : Session} (beside : OnlyStore s t) (calm : s.Calm) : t.Calm := by
  unfold Calm
  rw [beside.faults]
  exact calm

structure SameObjects (s t : Session) : Prop extends OnlyStore s t where
  objects : t.store.objects = s.store.objects
  nextObject : t.store.nextObject = s.store.nextObject

theorem SameObjects.refl (s : Session) : SameObjects s s := ⟨⟨rfl, rfl⟩, rfl, rfl⟩

theorem SameObjects.trans {s t u : Session} (first : SameObjects s t) (second : SameObjects t u) :
    SameObjects s u :=
  ⟨first.toOnlyStore.trans second.toOnlyStore, second.objects.trans first.objects,
    second.nextObject.trans first.nextObject⟩

theorem SameObjects.contents {s t : Session} (same : SameObjects s t) :
    t.store.contents = s.store.contents :=
  congrArg (List.map CanonicalObject.content) same.objects

theorem SameObjects.unique {s t : Session} (same : SameObjects s t)
    (unique : s.store.UniqueObjects) : t.store.UniqueObjects := by
  refine ⟨?_, ?_⟩
  · rw [same.objects]
    exact unique.ids
  · rw [same.objects, same.nextObject]
    exact unique.below

end Session

namespace Sync

variable {α β : Type} {s t : Session}

theorem bind_of_ok {x : Sync α} {f : α → Sync β} {a : α} (run : x s = (.ok a, t)) :
    (x >>= f) s = f a t := by
  show (match x s with | (a, t) => ExceptT.bindCont f a t) = _
  rw [run]
  rfl

theorem bind_of_error {x : Sync α} {f : α → Sync β} {e : WorkflowError}
    (run : x s = (.error e, t)) : (x >>= f) s = (.error e, t) := by
  show (match x s with | (a, t) => ExceptT.bindCont f a t) = _
  rw [run]
  rfl

theorem bind_eq_ok {x : Sync α} {f : α → Sync β} {b : β} (run : (x >>= f) s = (.ok b, t)) :
    ∃ a u, x s = (.ok a, u) ∧ f a u = (.ok b, t) := by
  rcases first : x s with ⟨a | a, u⟩
  · rw [bind_of_error first] at run
    cases run
  · rw [bind_of_ok first] at run
    exact ⟨a, u, rfl, run⟩

theorem get_bind {f : Session → Sync β} : (get >>= f) s = f s s := rfl

theorem storeCall_of_none {call : StoreCall} {f : Unit → Sync β}
    (none : s.faults.store s.calls.length call = none) :
    (storeCall call >>= f) s = f () (s.logged (.store call)) := by
  apply bind_of_ok
  show logged _ _ s = _
  rw [none]
  rfl

theorem storeCall_of_some {call : StoreCall} {f : Unit → Sync β} {e : StoreError}
    (fault : s.faults.store s.calls.length call = some e) :
    (storeCall call >>= f) s = (.error (.store e), s.logged (.store call)) := by
  apply bind_of_error
  show logged _ _ s = _
  rw [fault]
  rfl

theorem fault_of_storeCall {call : StoreCall} {f : Unit → Sync β} {b : β}
    (run : (storeCall call >>= f) s = (.ok b, t)) : s.faults.store s.calls.length call = none := by
  cases fault : s.faults.store s.calls.length call with
  | none => rfl
  | some e => cases (storeCall_of_some fault).symm.trans run

theorem storeCall_eq_ok {call : StoreCall} {f : Unit → Sync β} {b : β}
    (run : (storeCall call >>= f) s = (.ok b, t)) : f () (s.logged (.store call)) = (.ok b, t) :=
  (storeCall_of_none (fault_of_storeCall run)).symm.trans run

theorem answered_of_storeCall {call : StoreCall} {f : Unit → Sync β} {b : β}
    (run : (storeCall call >>= f) s = (.ok b, t)) : s.faults.Answered :=
  ⟨s.calls.length, call, fault_of_storeCall run⟩

theorem storeCall_of_calm {call : StoreCall} {f : Unit → Sync β} (calm : s.Calm) :
    (storeCall call >>= f) s = f () (s.logged (.store call)) :=
  storeCall_of_none (calm _ call)

theorem endpointCall_of_none {call : EndpointCall} {f : Unit → Sync β}
    (none : s.faults.endpoint s.calls.length call = none) :
    (endpointCall call >>= f) s = f () (s.logged (.endpoint call)) := by
  apply bind_of_ok
  show logged _ _ s = _
  rw [none]
  rfl

theorem endpointCall_of_some {call : EndpointCall} {f : Unit → Sync β} {e : EndpointError}
    (fault : s.faults.endpoint s.calls.length call = some e) :
    (endpointCall call >>= f) s = (.error (.endpoint e), s.logged (.endpoint call)) := by
  apply bind_of_error
  show logged _ _ s = _
  rw [fault]
  rfl

theorem endpointCall_eq_ok {call : EndpointCall} {f : Unit → Sync β} {b : β}
    (run : (endpointCall call >>= f) s = (.ok b, t)) :
    f () (s.logged (.endpoint call)) = (.ok b, t) := by
  cases fault : s.faults.endpoint s.calls.length call with
  | none => exact (endpointCall_of_none fault).symm.trans run
  | some e => cases (endpointCall_of_some fault).symm.trans run

theorem lookupRow_of_none {filter : Record} {names : List String}
    (none : s.faults.endpoint s.calls.length (.lookup filter names) = none) :
    lookupRow filter names s =
      (.ok (s.endpoint.lookup filter), s.logged (.endpoint (.lookup filter names))) :=
  endpointCall_of_none none

section Answers

theorem lookupObject_eq_ok {collection : String} {filter : Filter} {includeData : Bool}
    {found : Lookup CanonicalObject}
    (run : lookupObject collection filter includeData s = (.ok found, t)) :
    found = s.store.lookup collection filter ∧
      t = s.logged (.store (.lookup collection filter includeData)) := by
  have answer := storeCall_eq_ok run
  cases answer
  exact ⟨rfl, rfl⟩

theorem lookupObject_of_calm (calm : s.Calm) (collection : String) (filter : Filter)
    (includeData : Bool) :
    lookupObject collection filter includeData s = (.ok (s.store.lookup collection filter),
      s.logged (.store (.lookup collection filter includeData))) :=
  storeCall_of_calm calm

theorem loadObject_eq_ok {id : ObjectId} {found : Option CanonicalObject}
    (run : loadObject id s = (.ok found, t)) :
    found = s.store.object? id ∧ t = s.logged (.store (.load id)) := by
  have answer := storeCall_eq_ok run
  cases answer
  exact ⟨rfl, rfl⟩

theorem loadObject_of_calm (calm : s.Calm) (id : ObjectId) :
    loadObject id s = (.ok (s.store.object? id), s.logged (.store (.load id))) :=
  storeCall_of_calm calm

theorem relationsFrom_eq_ok {source : ObjectId} {edges : List Relation}
    (run : relationsFrom source s = (.ok edges, t)) :
    edges = s.store.relationsFrom source ∧ t = s.logged (.store (.relationsFrom source)) := by
  have answer := storeCall_eq_ok run
  cases answer
  exact ⟨rfl, rfl⟩

theorem relationsFrom_of_calm (calm : s.Calm) (source : ObjectId) :
    relationsFrom source s =
      (.ok (s.store.relationsFrom source), s.logged (.store (.relationsFrom source))) :=
  storeCall_of_calm calm

theorem staleObjects_eq_ok {collection endpoint : String} {time : Timestamp}
    {stale : List CanonicalObject}
    (run : staleObjects collection endpoint time s = (.ok stale, t)) :
    stale = s.store.stale collection endpoint time ∧
      t = s.logged (.store (.stale collection endpoint time)) := by
  have answer := storeCall_eq_ok run
  cases answer
  exact ⟨rfl, rfl⟩

theorem createObject_eq_ok {collection : String} {data : Record} {simulate : Bool}
    {seed : StatusSeed} {id : ObjectId}
    (run : createObject collection data simulate seed s = (.ok id, t)) :
    id = (s.store.create collection data simulate (some seed)).1 ∧
      t.store = (s.store.create collection data simulate (some seed)).2 ∧ s.OnlyStore t := by
  have answer := storeCall_eq_ok run
  cases answer
  exact ⟨rfl, rfl, rfl, rfl⟩

theorem changeObject_of_none {id : ObjectId} {data : Record} {simulate : Bool} {seed : StatusSeed}
    (none : s.faults.store s.calls.length (.change id data simulate (some seed)) = none) :
    changeObject id data simulate seed s =
      match s.store.change id data simulate (some seed) with
      | .ok store =>
        (.ok (), { s.logged (.store (.change id data simulate (some seed))) with store := store })
      | .error e =>
        (.error (.store e), s.logged (.store (.change id data simulate (some seed)))) := by
  unfold changeObject
  rw [storeCall_of_none none, get_bind, Session.logged_store]
  -- The double can refuse a write too, of an object that is not there.
  cases s.store.change id data simulate (some seed) <;> rfl

theorem changeObject_eq_ok {id : ObjectId} {data : Record} {simulate : Bool} {seed : StatusSeed}
    (run : changeObject id data simulate seed s = (.ok (), t)) :
    s.store.change id data simulate (some seed) = .ok t.store ∧ s.OnlyStore t := by
  rw [changeObject_of_none (fault_of_storeCall run)] at run
  cases changed : s.store.change id data simulate (some seed) with
  | ok store =>
    rw [changed] at run
    cases run
    exact ⟨rfl, rfl, rfl⟩
  | error e =>
    rw [changed] at run
    cases run

theorem changeObject_of_calm (calm : s.Calm) {id : ObjectId} {data : Record} {simulate : Bool}
    {seed : StatusSeed} {store : Store}
    (changed : s.store.change id data simulate (some seed) = .ok store) :
    changeObject id data simulate seed s =
      (.ok (),
        { s.logged (.store (.change id data simulate (some seed))) with store := store }) := by
  rw [changeObject_of_none (calm _ _), changed]

theorem deleteObject_eq_ok {id : ObjectId} {simulate : Bool}
    (run : deleteObject id simulate s = (.ok (), t)) :
    t.store = s.store.delete id simulate ∧ s.OnlyStore t := by
  have answer := storeCall_eq_ok run
  cases answer
  exact ⟨rfl, rfl, rfl⟩

theorem createRelation_eq_ok {source target : ObjectId} {attributeName : String} {simulate : Bool}
    {id : RelationId} (run : createRelation source target attributeName simulate s = (.ok id, t)) :
    t.store = (s.store.createRelation source target attributeName simulate).2 := by
  have answer := storeCall_eq_ok run
  cases answer
  rfl

theorem updateRelation_eq_ok {id : RelationId} {target : ObjectId} {simulate : Bool}
    (run : updateRelation id target simulate s = (.ok (), t)) :
    t.store = s.store.updateRelation id target simulate := by
  have answer := storeCall_eq_ok run
  cases answer
  rfl

theorem deleteRelation_eq_ok {id : RelationId} {simulate : Bool}
    (run : deleteRelation id simulate s = (.ok (), t)) :
    t.store = s.store.deleteRelation id simulate := by
  have answer := storeCall_eq_ok run
  cases answer
  rfl

theorem lookupRow_eq_ok {filter : Record} {names : List String} {found : Lookup Record}
    (run : lookupRow filter names s = (.ok found, t)) :
    found = s.endpoint.lookup filter ∧ t = s.logged (.endpoint (.lookup filter names)) := by
  have answer := endpointCall_eq_ok run
  cases answer
  exact ⟨rfl, rfl⟩

theorem nativeDelta_eq_ok {changes : Changes} {delta : Delta}
    (run : nativeDelta changes s = (.ok delta, t)) :
    delta = s.endpoint.nativeDelta changes ∧ t = s.logged (.endpoint (.nativeDelta changes)) := by
  have answer := endpointCall_eq_ok run
  cases answer
  exact ⟨rfl, rfl⟩

theorem createRow_eq_ok {record : Record} {uid : Option Uid}
    (run : createRow record s = (.ok uid, t)) :
    s.endpoint.create record = .ok (uid, t.endpoint) ∧ t.store = s.store ∧
      t.faults = s.faults := by
  have answer := endpointCall_eq_ok run
  rw [get_bind, Session.logged_endpoint] at answer
  cases created : s.endpoint.create record with
  | ok row =>
    rw [created] at answer
    cases answer
    exact ⟨rfl, rfl, rfl⟩
  | error e =>
    rw [created] at answer
    cases answer

theorem changeRow_eq_ok {delta : Delta} {record existing : Record} {uid : Option Uid}
    (run : changeRow delta record existing s = (.ok uid, t)) :
    s.endpoint.change delta existing = .ok (uid, t.endpoint) ∧ t.store = s.store ∧
      t.faults = s.faults := by
  have answer := endpointCall_eq_ok run
  rw [get_bind, Session.logged_endpoint] at answer
  cases changed : s.endpoint.change delta existing with
  | ok row =>
    rw [changed] at answer
    cases answer
    exact ⟨rfl, rfl, rfl⟩
  | error e =>
    rw [changed] at answer
    cases answer

theorem deleteRow_eq_ok {record existing : Record}
    (run : deleteRow record existing s = (.ok (), t)) :
    t.endpoint = s.endpoint.delete existing ∧ t.store = s.store ∧ t.faults = s.faults := by
  have answer := endpointCall_eq_ok run
  cases answer
  exact ⟨rfl, rfl, rfl⟩

theorem only_eq_ok {target : SearchTarget} {found : Lookup α} {there : Option α}
    (run : only target found s = (.ok there, t)) :
    t = s ∧ match there with
      | some a => found = .found a
      | none => found = .notFound ∨ found = .unresolvable := by
  cases found with
  | found a => cases run; exact ⟨rfl, rfl⟩
  | notFound => cases run; exact ⟨rfl, Or.inl rfl⟩
  | unresolvable => cases run; exact ⟨rfl, Or.inr rfl⟩
  | multiple count => cases run

theorem mapping_eq_ok {r : Except MappingError α} {a : α} (run : mapping r s = (.ok a, t)) :
    r = .ok a ∧ t = s := by
  cases r with
  | error e => cases run
  | ok b => cases run; exact ⟨rfl, rfl⟩

end Answers

section Frames

def Clear (act : Sync α) : Prop :=
  ∀ s collection count, (act s).1 ≠ .error (.ambiguous (.canonical collection) count)

theorem clear_pure (a : α) : Clear (pure a : Sync α) :=
  fun _ _ _ => nofun

theorem clear_bind {x : Sync α} {f : α → Sync β} (first : Clear x) (rest : ∀ a, Clear (f a)) :
    Clear (x >>= f) := by
  intro s collection count
  rcases run : x s with ⟨e | a, u⟩
  · rw [bind_of_error run]
    intro ambiguous
    cases ambiguous
    exact first s collection count (congrArg Prod.fst run)
  · rw [bind_of_ok run]
    exact rest a u collection count

theorem clear_storeCall (call : StoreCall) : Clear (storeCall call) := by
  intro s collection count
  show (logged _ _ s).1 ≠ _
  cases s.faults.store s.calls.length call <;> exact nofun

structure OnEdges (act : Sync α) : Prop where
  same : ∀ s, Session.SameObjects s (act s).2
  clear : Clear act

theorem OnEdges.sameObjects {act : Sync α} (onEdges : OnEdges act)
    {r : Except WorkflowError α} (run : act s = (r, t)) : s.SameObjects t := by
  have same := onEdges.same s
  rw [run] at same
  exact same

theorem onEdges_pure (a : α) : OnEdges (pure a : Sync α) :=
  ⟨Session.SameObjects.refl, clear_pure a⟩

theorem onEdges_bind {x : Sync α} {f : α → Sync β} (first : OnEdges x)
    (rest : ∀ a, OnEdges (f a)) : OnEdges (x >>= f) := by
  refine ⟨fun s => ?_, clear_bind first.clear fun a => (rest a).clear⟩
  have before := first.same s
  rcases run : x s with ⟨a | a, u⟩
  · rw [bind_of_error run]
    rw [run] at before
    exact before
  · rw [bind_of_ok run]
    rw [run] at before
    exact before.trans ((rest a).same u)

theorem onEdges_storeCall {call : StoreCall} {f : Unit → Sync β} (step : OnEdges (f ())) :
    OnEdges (storeCall call >>= f) := by
  refine onEdges_bind ⟨fun s => ?_, clear_storeCall call⟩ fun _ => step
  show Session.SameObjects s (logged _ _ s).2
  cases s.faults.store s.calls.length call <;> exact ⟨⟨rfl, rfl⟩, rfl, rfl⟩

theorem onEdges_lookupObject (collection : String) (filter : Filter) (includeData : Bool) :
    OnEdges (lookupObject collection filter includeData) :=
  onEdges_storeCall ⟨fun _ => ⟨⟨rfl, rfl⟩, rfl, rfl⟩, fun _ _ _ => nofun⟩

theorem onEdges_staleObjects (collection endpoint : String) (time : Timestamp) :
    OnEdges (staleObjects collection endpoint time) :=
  onEdges_storeCall ⟨fun _ => ⟨⟨rfl, rfl⟩, rfl, rfl⟩, fun _ _ _ => nofun⟩

theorem onEdges_relationsFrom (source : ObjectId) : OnEdges (relationsFrom source) :=
  onEdges_storeCall ⟨fun _ => ⟨⟨rfl, rfl⟩, rfl, rfl⟩, fun _ _ _ => nofun⟩

theorem onEdges_createRelation (source target : ObjectId) (attributeName : String)
    (simulate : Bool) : OnEdges (createRelation source target attributeName simulate) :=
  onEdges_storeCall
    ⟨fun _ => by cases simulate <;> exact ⟨⟨rfl, rfl⟩, rfl, rfl⟩, fun _ _ _ => nofun⟩

theorem onEdges_updateRelation (id : RelationId) (target : ObjectId) (simulate : Bool) :
    OnEdges (updateRelation id target simulate) :=
  onEdges_storeCall
    ⟨fun _ => by cases simulate <;> exact ⟨⟨rfl, rfl⟩, rfl, rfl⟩, fun _ _ _ => nofun⟩

theorem onEdges_deleteRelation (id : RelationId) (simulate : Bool) :
    OnEdges (deleteRelation id simulate) :=
  onEdges_storeCall
    ⟨fun _ => by cases simulate <;> exact ⟨⟨rfl, rfl⟩, rfl, rfl⟩, fun _ _ _ => nofun⟩

theorem onEdges_only (name collection : String) (found : Lookup α) :
    OnEdges (only (.relation name collection) found) := by
  refine ⟨fun s => ?_, fun s other count => ?_⟩
  · cases found <;> exact ⟨⟨rfl, rfl⟩, rfl, rfl⟩
  · cases found <;> exact nofun

end Frames

end Sync

end RecordSync
