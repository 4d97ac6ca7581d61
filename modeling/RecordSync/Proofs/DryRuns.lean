import RecordSync.Proofs.Batches
import RecordSync.Proofs.Edges
import RecordSync.Proofs.Exports

set_option autoImplicit false

namespace RecordSync

namespace Session

-- Objects, edges and rows are as before, and no call asked for a row to be written. The store's
-- counters may have moved.
structure Spared (s t : Session) : Prop extends KeepsRows s t where
  objects : t.store.objects = s.store.objects
  relations : t.store.relations = s.store.relations

theorem Spared.trans {s t u : Session} (first : Spared s t) (second : Spared t u) : Spared s u :=
  ⟨first.toKeepsRows.trans second.toKeepsRows, second.objects.trans first.objects,
    second.relations.trans first.relations⟩

theorem Unmoved.spared {s t : Session} (unmoved : Unmoved s t) : Spared s t :=
  ⟨unmoved.toKeepsRows, by rw [unmoved.store], by rw [unmoved.store]⟩

end Session

namespace Sync

variable {α β : Type}

def Dry (act : Sync α) : Prop :=
  ∀ s, Session.Spared s (act s).2

theorem ReadsOnly.dry {act : Sync α} (reads : ReadsOnly act) : Dry act :=
  fun s => (reads s).spared

theorem dry_pure (a : α) : Dry (pure a : Sync α) := (readsOnly_pure a).dry

theorem dry_bind {x : Sync α} {f : α → Sync β} (first : Dry x) (rest : ∀ a, Dry (f a)) :
    Dry (x >>= f) := by
  intro s
  have before := first s
  rcases run : x s with ⟨e | a, u⟩ <;> rw [run] at before
  · rw [bind_of_error run]
    exact before
  · rw [bind_of_ok run]
    exact before.trans (rest a u)

theorem readsOnly_storeCall_bind {call : StoreCall} {f : Unit → Sync α} (rest : ReadsOnly (f ())) :
    ReadsOnly (storeCall call >>= f) :=
  readsOnly_bind (readsOnly_storeCall call) fun _ => rest

theorem readsOnly_endpointCall {call : EndpointCall}
    (read : Session.writesRows (.endpoint call) = false) : ReadsOnly (endpointCall call) := by
  intro s
  show Session.Unmoved s (logged _ _ s).2
  cases s.faults.endpoint s.calls.length call <;> exact s.unmoved_logged _ read

theorem readsOnly_lookupObject (collection : String) (filter : Filter) (includeData : Bool) :
    ReadsOnly (lookupObject collection filter includeData) :=
  readsOnly_storeCall_bind Session.Unmoved.refl

theorem readsOnly_staleObjects (collection endpoint : String) (time : Timestamp) :
    ReadsOnly (staleObjects collection endpoint time) :=
  readsOnly_storeCall_bind Session.Unmoved.refl

theorem readsOnly_lookupRow (filter : Record) (names : List String) :
    ReadsOnly (lookupRow filter names) :=
  readsOnly_bind (readsOnly_endpointCall rfl) fun _ => Session.Unmoved.refl

theorem readsOnly_nativeDelta (changes : Changes) : ReadsOnly (nativeDelta changes) :=
  readsOnly_bind (readsOnly_endpointCall rfl) fun _ => Session.Unmoved.refl

theorem readsOnly_only (target : SearchTarget) (found : Lookup α) :
    ReadsOnly (only target found) := by
  intro s
  cases found <;> exact .refl s

theorem readsOnly_mapping (r : Except MappingError α) : ReadsOnly (mapping r) := by
  intro s
  cases r <;> exact .refl s

section Simulated

theorem spared_of_counters (s : Session) (nextObject nextRelation : Nat) :
    s.Spared { s with store := { s.store with nextObject, nextRelation } } :=
  ⟨⟨⟨rfl, rfl⟩, [], (List.append_nil _).symm, fun _ member => nomatch member⟩, rfl, rfl⟩

theorem dry_storeCall {call : StoreCall} {f : Unit → Sync α} (rest : Dry (f ())) :
    Dry (storeCall call >>= f) :=
  dry_bind (readsOnly_storeCall call).dry fun _ => rest

theorem dry_createObject (collection : String) (data : Record) (seed : StatusSeed) :
    Dry (createObject collection data true seed) :=
  dry_storeCall fun s => spared_of_counters s _ _

theorem dry_changeObject (id : ObjectId) (data : Record) (seed : StatusSeed) :
    Dry (changeObject id data true seed) :=
  dry_storeCall fun s => spared_of_counters s _ _

theorem dry_deleteObject (id : ObjectId) : Dry (deleteObject id true) :=
  dry_storeCall fun s => spared_of_counters s _ _

theorem dry_createRelation (source target : ObjectId) (attributeName : String) :
    Dry (createRelation source target attributeName true) :=
  dry_storeCall fun s => spared_of_counters s _ _

theorem dry_updateRelation (id : RelationId) (target : ObjectId) :
    Dry (updateRelation id target true) :=
  dry_storeCall fun s => spared_of_counters s _ _

theorem dry_deleteRelation (id : RelationId) : Dry (deleteRelation id true) :=
  dry_storeCall fun s => spared_of_counters s _ _

end Simulated

end Sync

theorem Relations.closed_dry : ClosedOnEdges (fun _ act => Sync.Dry act) true where
  pure := Sync.dry_pure
  bind := Sync.dry_bind
  lookup collection filter := (Sync.readsOnly_lookupObject collection filter false).dry
  only name collection found := (Sync.readsOnly_only (.relation name collection) found).dry
  edges source := (Sync.readsOnly_relationsFrom source).dry
  create := Sync.dry_createRelation
  update := Sync.dry_updateRelation
  delete := Sync.dry_deleteRelation

namespace Workflow

variable (w : Workflow) (evaluate : Evaluator)

theorem dry_remove (id : ObjectId) : Sync.Dry (remove id true) :=
  Sync.dry_bind (Relations.closed_dry.removeAll id) fun _ =>
    Sync.dry_bind (Sync.dry_deleteObject id) fun _ => Sync.dry_pure _

theorem dry_overwrite (object : CanonicalObject) (merged : Record) (status : SyncStatus) :
    Sync.Dry (w.overwrite object merged status true) :=
  Sync.dry_bind (Sync.dry_changeObject _ _ _) fun _ =>
    Sync.dry_bind (Relations.closed_dry.reconcile _ _ _) fun _ => Sync.dry_pure _

theorem dry_place (collection : String) (mapped : Record) (time : Timestamp)
    (there : Option CanonicalObject) : Sync.Dry (w.place collection mapped time true there) := by
  unfold place
  cases w.ensure.step there with
  | nothing => exact Sync.dry_pure _
  | create => exact Sync.dry_bind (Sync.dry_createObject _ _ _) fun _ => Sync.dry_pure _
  | update object => exact w.dry_overwrite _ _ _
  | delete object => exact dry_remove object.id

theorem dry_importRecord (collection : String) (record : Record) (time : Timestamp) :
    Sync.Dry (w.importRecord evaluate collection record time true) := by
  intro s
  by_cases passed : ∃ mapped key, Asks w evaluate record mapped key s
  · obtain ⟨mapped, key, asks⟩ := passed
    rw [importRecord_of_asks asks]
    exact Sync.dry_bind (Sync.readsOnly_lookupObject _ _ _).dry (fun _ =>
      Sync.dry_bind (Sync.readsOnly_only _ _).dry fun _ => w.dry_place _ _ _ _) s
  · rcases importRecord_of_not_asks passed with declines | ⟨e, _, failed⟩
    · rw [importRecord_of_declines declines]
      exact (Session.Unmoved.refl s).spared
    · rw [failed]
      exact (Session.Unmoved.refl s).spared

theorem readsOnly_checkEndpoint : Sync.ReadsOnly w.checkEndpoint := by
  intro s
  by_cases bound : s.endpoint.name = w.endpoint
  · rw [checkEndpoint_of_eq bound]
    exact .refl s
  · rw [checkEndpoint_of_ne bound]
    exact .refl s

theorem readsOnly_counterpart? (mapped : Record) : Sync.ReadsOnly (w.counterpart? mapped) := by
  unfold counterpart?
  refine Sync.readsOnly_bind (fun s => .refl s) fun s => ?_
  split
  · exact Sync.readsOnly_pure _
  · split
    · exact Sync.readsOnly_pure _
    · exact Sync.readsOnly_bind (Sync.readsOnly_lookupRow _ _) fun _ => Sync.readsOnly_only _ _

theorem dry_stamp (object : CanonicalObject) (time : Timestamp) (result : String)
    (id : Option String) : Sync.Dry (w.stamp object time result id true) :=
  Sync.dry_changeObject _ _ _

theorem dry_deliver (object : CanonicalObject) (mapped : Record) (time : Timestamp)
    (there : Option Record) : Sync.Dry (w.deliver object mapped time true there) := by
  unfold deliver
  dsimp only
  -- Each row of the table stamps the object; what writes a row stands behind the other flag.
  cases w.ensure.step there with
  | nothing => exact Sync.dry_pure _
  | create =>
    exact Sync.dry_bind (Sync.dry_pure none) fun _ =>
      Sync.dry_bind (w.dry_stamp _ _ _ _) fun _ => Sync.dry_pure _
  | update current =>
    dsimp only
    split
    · exact Sync.dry_bind (w.dry_stamp _ _ _ _) fun _ => Sync.dry_pure _
    · exact Sync.dry_bind (Sync.readsOnly_nativeDelta _).dry fun _ =>
        Sync.dry_bind (Sync.dry_pure none) fun _ =>
          Sync.dry_bind (w.dry_stamp _ _ _ _) fun _ => Sync.dry_pure _
  | delete current =>
    exact Sync.dry_bind (w.dry_stamp _ _ _ _) fun _ => Sync.dry_pure _

theorem dry_exportObject (object : CanonicalObject) (time : Timestamp) :
    Sync.Dry (w.exportObject evaluate object time true) := by
  unfold exportObject
  refine Sync.dry_bind w.readsOnly_checkEndpoint.dry fun _ =>
    Sync.dry_bind (readsOnly_admitsExport w evaluate object).dry fun passed => ?_
  split
  · exact Sync.dry_pure _
  · exact Sync.dry_bind (Sync.readsOnly_mapping _).dry fun _ =>
      Sync.dry_bind (w.readsOnly_counterpart? _).dry fun _ => w.dry_deliver _ _ _ _

theorem dry_cleanUp (object : CanonicalObject) (time : Timestamp) :
    Sync.Dry (w.cleanUp evaluate object time true) := by
  unfold cleanUp
  refine Sync.dry_bind w.readsOnly_checkEndpoint.dry fun _ => ?_
  split
  · exact Sync.dry_pure _
  · split
    · exact dry_remove object.id
    · exact w.dry_overwrite _ _ _
    · exact Sync.dry_pure _
    · exact Sync.dry_pure _

end Workflow

namespace Batch

theorem dry_attempt {act : Sync Outcome} (dry : Sync.Dry act) : Sync.Dry (attempt act) :=
  fun s => dry s

theorem dry_trackAll {acts : List (String × Sync Outcome)} (dry : ∀ act ∈ acts, Sync.Dry act.2)
    (report : Report) : Sync.Dry (trackAll acts report) := by
  -- An object that fails is as dry as one that does not, so the batch goes on with the same store.
  induction acts generalizing report with
  | nil => exact Sync.dry_pure _
  | cons act rest ih =>
    obtain ⟨first, later⟩ := List.forall_mem_cons.1 dry
    exact Sync.dry_bind (dry_attempt first) fun _ => ih later _

end Batch

inductive Pass where
  | imports (w : Workflow) (evaluate : Evaluator) (records : List Record) (time : Timestamp)
  | exports (w : Workflow) (evaluate : Evaluator) (objects : List CanonicalObject)
    (time : Timestamp)
  | sweep (w : Workflow) (evaluate : Evaluator) (time : Timestamp)

namespace Pass

def run (simulate : Bool) : Pass → Sync Report
  | .imports w evaluate records time => w.importAll evaluate records time simulate
  | .exports w evaluate objects time => w.exportAll evaluate objects time simulate
  | .sweep w evaluate time => w.collectGarbage evaluate time simulate

def runAll (simulate : Bool) (passes : List Pass) (s : Session) : Session :=
  passes.foldl (fun s pass => (pass.run simulate s).2) s

theorem dry_run (pass : Pass) : Sync.Dry (pass.run true) := by
  cases pass with
  | imports w evaluate records time =>
    refine Batch.dry_trackAll (fun act member => ?_) _
    obtain ⟨record, _, same⟩ := Workflow.mem_imports member
    rw [same]
    exact w.dry_importRecord evaluate _ _ _
  | exports w evaluate objects time =>
    refine Batch.dry_trackAll (fun act member => ?_) _
    obtain ⟨object, _, rfl⟩ := List.mem_map.1 member
    exact w.dry_exportObject evaluate object time
  | sweep w evaluate time =>
    refine Sync.dry_bind (fun s => (Session.Unmoved.refl s).spared) fun _ =>
      Sync.dry_bind (Sync.readsOnly_staleObjects _ _ _).dry fun stale =>
        Batch.dry_trackAll (fun act member => ?_) _
    obtain ⟨object, _, rfl⟩ := List.mem_map.1 member
    exact w.dry_cleanUp evaluate object time

theorem spared_runAll (passes : List Pass) (s : Session) : s.Spared (runAll true passes s) := by
  induction passes generalizing s with
  | nil => exact (Session.Unmoved.refl s).spared
  | cons pass rest ih => exact (pass.dry_run s).trans (ih _)

-- Simulated passes, in any number and order and whatever fails in them, leave all objects with
-- their versions and statuses, all edges and all rows, and no call asks the endpoint to write.
theorem simulated_passes_write_nothing (passes : List Pass) (s : Session) :
    (runAll true passes s).store.objects = s.store.objects ∧
      (runAll true passes s).store.relations = s.store.relations ∧
      (runAll true passes s).endpoint.rows = s.endpoint.rows ∧
      ∃ log, (runAll true passes s).calls = s.calls ++ log ∧
        ∀ call ∈ log, Session.writesRows call = false := by
  have spared := spared_runAll passes s
  exact ⟨spared.objects, spared.relations, by rw [spared.endpoint], spared.calls⟩

end Pass

end RecordSync
