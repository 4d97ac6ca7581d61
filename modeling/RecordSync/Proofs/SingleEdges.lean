import RecordSync.Proofs.Deliveries
import RecordSync.Proofs.ImportTable
import RecordSync.Proofs.Passes

set_option autoImplicit false

namespace RecordSync

namespace Store

structure Tidy (s : Store) : Prop where
  unique : s.UniqueRelations
  single : ∀ source name, (edgesOf s.relations source name).length ≤ 1
  sourced : ∀ r ∈ s.relations, s.Has r.source

variable {s t : Store} {id source : ObjectId} {simulate : Bool}

theorem Tidy.of_nil (none : s.relations = []) : s.Tidy := by
  refine ⟨⟨?_, ?_⟩, fun source name => ?_, ?_⟩ <;> simp [none, edgesOf]

theorem Tidy.of_same (tidy : s.Tidy) (relations : t.relations = s.relations)
    (counter : s.nextRelation ≤ t.nextRelation) (kept : ∀ id, s.Has id → t.Has id) : t.Tidy := by
  refine ⟨⟨?_, fun r member => ?_⟩, fun source name => ?_, fun r member => ?_⟩
  · exact relations ▸ tidy.unique.ids
  · exact Nat.lt_of_lt_of_le (tidy.unique.below r (relations ▸ member)) counter
  · exact relations ▸ tidy.single source name
  · exact kept _ (tidy.sourced r (relations ▸ member))

theorem Has.change {data : Record} {seed : Option StatusSeed} {other : ObjectId}
    (has : s.Has other) (changed : s.change id data simulate seed = .ok t) : t.Has other := by
  rcases change_eq_ok changed with ⟨_, rfl⟩ | ⟨_, _, rfl⟩
  · exact has
  · obtain ⟨o, member, rfl⟩ := has
    refine ⟨_, List.mem_map_of_mem member, ?_⟩
    split <;> cases seed <;> rfl

theorem Tidy.change (tidy : s.Tidy) {data : Record} {seed : Option StatusSeed}
    (changed : s.change id data simulate seed = .ok t) : t.Tidy :=
  tidy.of_same (relations_change changed) (Nat.le_of_eq (nextRelation_change changed).symm)
    fun _ has => has.change changed

end Store

-- A new edge leaves an object that is there and has none of the name yet, and an object that is
-- deleted has no edge left. The other writes do no harm to a tidy store.
def StoreWrite.Safe (s : Store) : StoreWrite → Prop
  | .createRelation source _ name => s.Has source ∧ edgesOf s.relations source name = []
  | .deleteObject id => s.relationsFrom id = []
  | _ => True

namespace Store

variable {s t : Store} {x : StoreWrite} {xs part rest : List StoreWrite}

theorem Tidy.apply (tidy : s.Tidy) (safe : x.Safe s) : (s.apply false x).Tidy := by
  cases x with
  | createObject collection data seed =>
    exact tidy.of_same rfl (Nat.le_refl _) fun id ⟨o, member, same⟩ =>
      ⟨o, List.mem_append_left _ member, same⟩
  | changeObject id data seed =>
    cases changed : s.change id data false (some seed) with
    | ok t =>
      rw [apply_change changed]
      exact tidy.change changed
    | error e =>
      simp only [Store.apply, changed]
      exact tidy
  | deleteObject id =>
    refine ⟨⟨tidy.unique.ids, tidy.unique.below⟩, tidy.single, fun r member => ?_⟩
    obtain ⟨o, there, same⟩ := tidy.sourced r member
    -- No edge leaves the object that goes, so the source of this one is another.
    have other : r.source ≠ id := fun leaves =>
      List.eq_nil_iff_forall_not_mem.1 safe r (List.mem_filter.2 ⟨member, decide_eq_true leaves⟩)
    exact ⟨o, List.mem_filter.2 ⟨there, by simpa [same] using other⟩, same⟩
  | createRelation source target name =>
    obtain ⟨has, none⟩ := safe
    refine ⟨tidy.unique.create source target name, fun other under => ?_, fun r member => ?_⟩
    · show (edgesOf (s.relations ++ [_]) other under).length ≤ 1
      rw [edgesOf_append]
      by_cases mine : name = under ∧ source = other
      · obtain ⟨rfl, rfl⟩ := mine
        rw [none]
        exact Nat.le_trans (List.length_filter_le _ _) (List.length_filter_le _ _)
      · have apart : edgesOf [⟨⟨s.nextRelation⟩, source, target, name⟩] other under = [] := by
          simpa [edgesOf] using mine
        rw [apart, List.append_nil]
        exact tidy.single other under
    · rcases List.mem_append.1 member with old | new
      · exact tidy.sourced r old
      · rw [List.mem_singleton.1 new]
        exact has
  | updateRelation id target =>
    refine ⟨tidy.unique.update id target, fun source name => ?_, fun r member => ?_⟩
    · show (edgesOf (s.relations.map (Relation.pointed id target)) source name).length ≤ 1
      rw [edgesOf_map_pointed, List.length_map]
      exact tidy.single source name
    · obtain ⟨old, there, rfl⟩ := List.mem_map.1 member
      have has := tidy.sourced old there
      split <;> exact has
  | deleteRelation id =>
    refine ⟨⟨tidy.unique.ids.sublist (List.filter_sublist.map _),
      fun r member => tidy.unique.below r (List.mem_filter.1 member).1⟩, fun source name => ?_,
      fun r member => tidy.sourced r (List.mem_filter.1 member).1⟩
    show (edgesOf (s.relations.filter _) source name).length ≤ 1
    rw [edgesOf_filter]
    exact Nat.le_trans (List.length_filter_le _ _) (tidy.single source name)

theorem Tidy.apply_simulated (tidy : s.Tidy) (x : StoreWrite) : (s.apply true x).Tidy := by
  cases x with
  | createRelation => exact tidy.of_same rfl (Nat.le_succ _) fun _ has => has
  | _ => exact tidy.of_same rfl (Nat.le_refl _) fun _ has => has

def Safe (s : Store) : List StoreWrite → Prop
  | [] => True
  | x :: xs => x.Safe s ∧ (s.apply false x).Safe xs

theorem safe_append :
    s.Safe (xs ++ rest) ↔ s.Safe xs ∧ (s.written false xs).Safe rest := by
  induction xs generalizing s with
  | nil => simp [Safe]
  | cons x xs ih => simp [Safe, ih, and_assoc]

theorem Tidy.written (tidy : s.Tidy) (safe : s.Safe xs) : (s.written false xs).Tidy := by
  induction xs generalizing s with
  | nil => exact tidy
  | cons x xs ih => exact ih (tidy.apply safe.1) safe.2

theorem Tidy.written_simulated (tidy : s.Tidy) (xs : List StoreWrite) :
    (s.written true xs).Tidy := by
  induction xs generalizing s with
  | nil => exact tidy
  | cons x xs ih => exact ih (tidy.apply_simulated x)

end Store

namespace Relations

variable {s : Store} {targets : Targets} {source : ObjectId} {data : Record}
  {ds : List AttributeDefinition} {x : StoreWrite}

theorem safe_clearing (edges : List Relation) (s : Store) : s.Safe (clearing edges) := by
  induction edges generalizing s with
  | nil => trivial
  | cons edge rest ih => exact ⟨trivial, ih _⟩

theorem safe_of_mem_clearing {edges : List Relation} (member : x ∈ clearing edges) : x.Safe s := by
  obtain ⟨edge, _, rfl⟩ := List.mem_map.1 member
  trivial

theorem safe_of_mem_writes (has : s.Has source) (d : AttributeDefinition) (a : Aim)
    (member : x ∈ a.writes d source (edgesOf s.relations source d.name)) : x.Safe s := by
  cases a with
  | leave | miss => cases member
  | clear => exact safe_of_mem_clearing member
  | point target =>
    cases current : edgesOf s.relations source d.name with
    | nil =>
      rw [current] at member
      rw [List.mem_singleton.1 member]
      exact ⟨has, current⟩
    | cons edge extra =>
      rw [current] at member
      rcases List.mem_append.1 member with trimmed | moved
      · exact safe_of_mem_clearing trimmed
      · split at moved
        · rw [List.mem_singleton.1 moved]
          trivial
        · cases moved

theorem safe_of_mem_planAll (has : s.Has source)
    (member : x ∈ (planAll targets source data s.relations ds).writes) : x.Safe s := by
  induction ds with
  | nil => cases member
  | cons d ds ih =>
    cases aimed : aim targets data d with
    | error e =>
      rw [planAll_cons_of_error aimed] at member
      cases member
    | ok a =>
      rw [planAll_cons_of_ok aimed] at member
      rcases List.mem_append.1 member with mine | later
      · exact safe_of_mem_writes has d a mine
      · exact ih later

theorem safe_planAll (unique : s.UniqueRelations) (has : s.Has source)
    (names : (ds.map AttributeDefinition.name).Nodup) {xs : List StoreWrite}
    (planned : (planAll targets source data s.relations ds).writes = xs) : s.Safe xs := by
  -- What is left after the first write is planned by the store after it.
  induction xs generalizing s with
  | nil => trivial
  | cons x xs ih =>
    obtain ⟨under, left⟩ := planAll_apply unique names planned
    refine ⟨safe_of_mem_planAll has (planned ▸ List.mem_cons_self), ih under.unique ?_ left⟩
    unfold Store.Has
    rw [under.objects]
    exact has

theorem safe_plan (m : Mapper) (data : Record) (unique : s.UniqueRelations) (has : s.Has source) :
    s.Safe (plan m source data s).writes :=
  safe_planAll unique has m.nodup_related rfl

end Relations

namespace Workflow

variable {w : Workflow} {collection : String} {mapped key : Record} {time : Timestamp}
  {store : Store}

theorem safe_planWrite {write : StoreWrite} {id : ObjectId} {data : Record}
    {outcome : EdgeChanges → Outcome} (tidy : store.Tidy) (safe : write.Safe store)
    (has : (store.apply false write).Has id) :
    store.Safe (w.planWrite write id data false outcome store).writes :=
  ⟨safe, Relations.safe_plan _ _ (tidy.apply safe).unique has⟩

theorem safe_planRemove (tidy : store.Tidy) (id : ObjectId) :
    store.Safe (planRemove id store).writes := by
  -- When it comes to the object itself, all edges that leave it are gone.
  refine Store.safe_append.2 ⟨Relations.safe_clearing _ _, ?_, trivial⟩
  rw [Relations.written_clearing, Store.withoutEdges_relationsFrom tidy.unique]
  simp [StoreWrite.Safe, Store.relationsFrom]

theorem safe_planOverwrite {object : CanonicalObject} (tidy : store.Tidy)
    (stored : store.Has object.id) (merged : Record) (status : SyncStatus) :
    store.Safe (w.planOverwrite object merged status false store).writes := by
  obtain ⟨x, member, same⟩ := stored
  obtain ⟨after, changed⟩ := Store.change_of_mem member merged (some (w.seed status))
  rw [same] at changed
  refine safe_planWrite tidy trivial ?_
  rw [Store.apply_change changed]
  exact Store.Has.change ⟨x, member, same⟩ changed

theorem safe_planPlace {there : Option CanonicalObject} (tidy : store.Tidy)
    (stored : ∀ object, there = some object → object ∈ store.objects) :
    store.Safe (w.planPlace collection mapped time false there store).writes := by
  unfold planPlace
  cases step : w.ensure.step there with
  | nothing => trivial
  | create =>
    exact safe_planWrite tidy trivial
      ⟨_, List.mem_append_right _ (List.mem_singleton_self _), rfl⟩
  | delete object => exact safe_planRemove tidy object.id
  | update object =>
    obtain ⟨rfl, _⟩ := Ensure.step_eq_update step
    exact safe_planOverwrite tidy ⟨object, stored object rfl, rfl⟩ _ _

theorem safe_planSettle (w : Workflow) (collection : String) (mapped key : Record)
    (time : Timestamp) (tidy : store.Tidy) :
    store.Safe (w.planSettle collection mapped key time false store).writes := by
  rcases planSettle_cases w collection mapped key time store with
    ⟨there, answers, plan⟩ | ⟨count, plan⟩ <;> rw [plan]
  · refine safe_planPlace tidy fun object found => ?_
    subst found
    exact (Store.lookup_eq_found answers).1
  · trivial

end Workflow

namespace Sync

variable {α β : Type} {P : Store → Prop}

def Keeps (P : Store → Prop) (act : Sync α) : Prop :=
  ∀ s, P s.store → P (act s).2.store

theorem ReadsOnly.keeps {act : Sync α} (reads : ReadsOnly act) : Keeps P act :=
  fun s holds => (reads s).store ▸ holds

theorem keeps_pure (a : α) : Keeps P (pure a : Sync α) := (readsOnly_pure a).keeps

theorem keeps_bind {x : Sync α} {f : α → Sync β} (first : Keeps P x) (rest : ∀ a, Keeps P (f a)) :
    Keeps P (x >>= f) := by
  intro s holds
  have before := first s holds
  rcases run : x s with ⟨e | a, u⟩ <;> rw [run] at before
  · rw [bind_of_error run]
    exact before
  · rw [bind_of_ok run]
    exact rest a u before

theorem CallsEndpoint.keeps {call : EndpointCall} {act : Sync α} (calls : CallsEndpoint call act) :
    Keeps P act :=
  fun s holds => (calls s).1 ▸ holds

theorem tidy_changeObject (id : ObjectId) (data : Record) (simulate : Bool) (seed : StatusSeed) :
    Keeps Store.Tidy (changeObject id data simulate seed) := by
  intro s tidy
  rcases changeObject_ends id data simulate seed s with same | changed
  · exact same ▸ tidy
  · exact tidy.change changed

theorem Performs.tidy {act : Sync α} {s : Session} {simulate : Bool} {plan : Plan α}
    (performs : Performs act s simulate plan) (tidy : s.store.Tidy)
    (safe : simulate = false → s.store.Safe plan.writes) : (act s).2.store.Tidy := by
  -- Whatever stopped the run, the writes made are the first ones of a plan that is safe as a whole.
  obtain ⟨part, ⟨rest, whole⟩, store⟩ := performs.exists_prefix
  rw [store]
  cases simulate with
  | true => exact tidy.written_simulated part
  | false =>
    have all := safe rfl
    rw [← whole, Store.safe_append] at all
    exact tidy.written all.1

end Sync

namespace Workflow

variable (w : Workflow) (evaluate : Evaluator)

theorem tidy_remove (id : ObjectId) (simulate : Bool) :
    Sync.Keeps Store.Tidy (remove id simulate) :=
  fun _ tidy => (performs_remove id).tidy tidy fun _ => safe_planRemove tidy id

theorem tidy_overwrite (object : CanonicalObject) (merged : Record) (status : SyncStatus)
    (simulate : Bool) : Sync.Keeps Store.Tidy (w.overwrite object merged status simulate) := by
  intro s tidy
  cases changed : s.store.change object.id merged simulate (some (w.seed status)) with
  | ok store =>
    refine (performs_overwrite changed).tidy tidy fun real => ?_
    subst real
    exact safe_planOverwrite tidy (Store.real_change_eq_ok changed).1 merged status
  | error e =>
    -- The object is gone, so the change fails and no edge is drawn.
    have kept := Sync.tidy_changeObject object.id merged simulate (w.seed status) s tidy
    unfold overwrite
    rcases run : Sync.changeObject object.id merged simulate (w.seed status) s with ⟨e | _, u⟩
    · rw [run] at kept
      rw [Sync.bind_of_error run]
      exact kept
    · cases (Sync.changeObject_eq_ok run).1.symm.trans changed

theorem tidy_importRecord (collection : String) (record : Record) (time : Timestamp)
    (simulate : Bool) :
    Sync.Keeps Store.Tidy (w.importRecord evaluate collection record time simulate) := by
  intro s tidy
  by_cases passed : ∃ mapped key, Asks w evaluate record mapped key s
  · obtain ⟨mapped, key, asks⟩ := passed
    refine (performs_import asks collection time simulate).tidy tidy fun real => ?_
    subst real
    exact safe_planSettle w collection mapped key time tidy
  · rcases importRecord_of_not_asks passed with declines | ⟨e, _, failed⟩
    · rw [importRecord_of_declines declines]
      exact tidy
    · rw [failed]
      exact tidy

theorem tidy_deliver (object : CanonicalObject) (mapped : Record) (time : Timestamp)
    (simulate : Bool) (there : Option Record) :
    Sync.Keeps Store.Tidy (w.deliver object mapped time simulate there) := by
  have stamped (result : String) (id : Option String) (o : Outcome) : Sync.Keeps Store.Tidy
      (do w.stamp object time result id simulate; return o) :=
    Sync.keeps_bind (Sync.tidy_changeObject _ _ _ _) fun _ => Sync.keeps_pure o
  unfold deliver
  dsimp only
  cases w.ensure.step there with
  | nothing => exact Sync.keeps_pure _
  | create =>
    cases simulate
    · exact Sync.keeps_bind (Sync.callsEndpoint_createRow mapped).keeps fun _ => stamped _ _ _
    · exact Sync.keeps_bind (Sync.keeps_pure none) fun _ => stamped _ _ _
  | update row =>
    dsimp only
    split
    · exact stamped _ _ _
    · refine Sync.keeps_bind (Sync.readsOnly_nativeDelta _).keeps fun delta => ?_
      cases simulate
      · exact Sync.keeps_bind (Sync.callsEndpoint_changeRow delta mapped row).keeps fun _ =>
          stamped _ _ _
      · exact Sync.keeps_bind (Sync.keeps_pure none) fun _ => stamped _ _ _
  | delete row =>
    cases simulate
    · exact Sync.keeps_bind (Sync.callsEndpoint_deleteRow mapped row).keeps fun _ => stamped _ _ _
    · exact stamped _ _ _

theorem tidy_exportObject (object : CanonicalObject) (time : Timestamp) (simulate : Bool) :
    Sync.Keeps Store.Tidy (w.exportObject evaluate object time simulate) := by
  unfold exportObject
  refine Sync.keeps_bind w.readsOnly_checkEndpoint.keeps fun _ =>
    Sync.keeps_bind (readsOnly_admitsExport w evaluate object).keeps fun passed => ?_
  split
  · exact Sync.keeps_pure _
  · exact Sync.keeps_bind (Sync.readsOnly_mapping _).keeps fun _ =>
      Sync.keeps_bind (w.readsOnly_counterpart? _).keeps fun _ => w.tidy_deliver _ _ _ _ _

theorem tidy_cleanUp (object : CanonicalObject) (time : Timestamp) (simulate : Bool) :
    Sync.Keeps Store.Tidy (w.cleanUp evaluate object time simulate) := by
  unfold cleanUp
  refine Sync.keeps_bind w.readsOnly_checkEndpoint.keeps fun _ => ?_
  split
  · exact Sync.keeps_pure _
  · split
    · exact tidy_remove object.id simulate
    · exact w.tidy_overwrite _ _ _ _
    · exact Sync.keeps_pure _
    · exact Sync.keeps_pure _

end Workflow

inductive Task where
  | imports (w : Workflow) (evaluate : Evaluator) (collection : String) (record : Record)
    (time : Timestamp)
  | exports (w : Workflow) (evaluate : Evaluator) (object : CanonicalObject) (time : Timestamp)
  | cleansUp (w : Workflow) (evaluate : Evaluator) (object : CanonicalObject) (time : Timestamp)

namespace Task

def run (simulate : Bool) : Task → Sync Outcome
  | .imports w evaluate collection record time =>
    w.importRecord evaluate collection record time simulate
  | .exports w evaluate object time => w.exportObject evaluate object time simulate
  | .cleansUp w evaluate object time => w.cleanUp evaluate object time simulate

theorem tidy_run (task : Task) (simulate : Bool) : Sync.Keeps Store.Tidy (task.run simulate) := by
  cases task with
  | imports w evaluate collection record time =>
    exact w.tidy_importRecord evaluate collection record time simulate
  | exports w evaluate object time => exact w.tidy_exportObject evaluate object time simulate
  | cleansUp w evaluate object time => exact w.tidy_cleanUp evaluate object time simulate

-- The stores that a history of tasks leads to. Each task meets an endpoint and failures of its own,
-- and may be simulated.
inductive Reaches (start : Store) : Store → Prop
  | start : Reaches start start
  | after {s : Session} (task : Task) (simulate : Bool) (before : Reaches start s.store) :
    Reaches start (task.run simulate s).2.store

theorem Reaches.tidy {start s : Store} (tidy : start.Tidy) (reaches : Reaches start s) :
    s.Tidy := by
  induction reaches with
  | start => exact tidy
  | after task simulate _ ih => exact task.tidy_run simulate _ ih

-- From a store without edges no history leads to two edges that leave an object under one name, or
-- to an edge whose source is in no collection.
theorem edges_stay_single_and_sourced {start s : Store} (none : start.relations = [])
    (reaches : Reaches start s) :
    (∀ source name, (edgesOf s.relations source name).length ≤ 1) ∧
      ∀ r ∈ s.relations, ∃ collection, ∃ o ∈ s.inCollection collection, o.id = r.source := by
  have tidy := reaches.tidy (.of_nil none)
  refine ⟨tidy.single, fun r member => ?_⟩
  obtain ⟨o, there, same⟩ := tidy.sourced r member
  exact ⟨o.collection, o, List.mem_filter.2 ⟨there, decide_eq_true rfl⟩, same⟩

theorem edges_stay_single_and_sourced_after_ann :
    let start : Store := ⟨[Workflow.person 1 "bob"], [], 2, 1⟩
    let w := Workflow.superiors .latest Ensure.latest_ne_merge
    ∃ s, Workflow.ofSpec (Pattern.among []) (Workflow.superiorsSpec .latest) = .ok w ∧
      start.relations = [] ∧
      Reaches start s ∧ s.relations = [⟨⟨1⟩, ⟨2⟩, ⟨1⟩, "boss"⟩] ∧
      (∀ source name, (edgesOf s.relations source name).length ≤ 1) ∧
      ∀ r ∈ s.relations, ∃ collection, ∃ o ∈ s.inCollection collection, o.id = r.source := by
  intro start w
  let session : Session := ⟨start, .named "ldap", [], .never⟩
  let task : Task := .imports w (fun _ _ => .ok .null) "people" Workflow.annUnderBob ⟨1, 0⟩
  have reaches : Reaches start (task.run false session).2.store := .after task false .start
  refine ⟨_, Workflow.ofSpec_superiors _ _ _, rfl, reaches, ?_,
    edges_stay_single_and_sourced rfl reaches⟩
  show (w.importRecord (fun _ _ => .ok .null) "people" Workflow.annUnderBob ⟨1, 0⟩ false
    session).2.store.relations = _
  rw [Workflow.importRecord_of_asks (Workflow.asks_superiors Ensure.latest_ne_merge rfl)]
  rfl

end Task

end RecordSync
