import RecordSync.Proofs.Batches
import RecordSync.Proofs.ImportTable
import RecordSync.Proofs.ObjectWrites

set_option autoImplicit false

namespace RecordSync

namespace Workflow

variable {w : Workflow} {evaluate : Evaluator} {record : Record} {records : List Record}
  {time : Timestamp} {s t : Session} {id : ObjectId}

inductive Concerns (w : Workflow) (evaluate : Evaluator) (record : Record) (time : Timestamp)
    (s : Session) : ObjectId → Prop
  | created
    (ended : (w.importRecord evaluate w.collection record time false s).1 = .ok .created) :
    Concerns w evaluate record time s ⟨s.store.nextObject⟩
  | matched {mapped key : Record} {x : CanonicalObject}
    (ended : (w.importRecord evaluate w.collection record time false s).1 = .ok .updated ∨
      (w.importRecord evaluate w.collection record time false s).1 = .ok .unchanged)
    (mapping : w.mapper.map evaluate record = .ok mapped)
    (keyed : identity mapped w.identifiers = .ok key)
    (only : counterparts s.store w.collection key = [x]) :
    Concerns w evaluate record time s x.id

-- An import of the batch created or matched the object. Each starts from what those before left.
inductive Reports (w : Workflow) (evaluate : Evaluator) (time : Timestamp) :
    List Record → Session → ObjectId → Prop
  | here {record : Record} {records : List Record} {s : Session} {id : ObjectId}
    (concerns : Concerns w evaluate record time s id) :
    Reports w evaluate time (record :: records) s id
  | later {record : Record} {records : List Record} {s : Session} {id : ObjectId}
    (reports : Reports w evaluate time records
      (w.importRecord evaluate w.collection record time false s).2 id) :
    Reports w evaluate time (record :: records) s id

def Fresh (w : Workflow) (time : Timestamp) (id : ObjectId) (o : CanonicalObject) : Prop :=
  o.id = id ∧ o.collection = w.collection ∧ o.statusFor w.endpoint = some (.synced time)

def Outdated (w : Workflow) (time : Timestamp) (o : CanonicalObject) : Prop :=
  ∃ status, o.statusFor w.endpoint = some status ∧ status.lastSync.before time = true

-- A sweep at the time is to mark the object.
structure Due (w : Workflow) (evaluate : Evaluator) (time : Timestamp) (o : CanonicalObject) :
    Prop where
  named : o.collection = w.collection
  outdated : w.Outdated time o
  admitted : w.admits evaluate o.data = true

def marked (w : Workflow) (time : Timestamp) (o : CanonicalObject) : CanonicalObject :=
  Store.overwritten o (w.mapper.merge o.data o.data) (some (w.seed (.gone time)))

theorem fresh_overwritten {o : CanonicalObject} (same : o.id = id)
    (named : o.collection = w.collection) (data : Record) :
    w.Fresh time id (Store.overwritten o data (some (w.seed (.synced time)))) := by
  refine ⟨same, named, ?_⟩
  rw [CanonicalObject.statusFor_overwritten]
  exact if_pos rfl

section Imports

variable (latest : w.ensure = .latest)

include latest

theorem placing_none (mapped : Record) :
    w.placing w.collection mapped time none = some (w.creation w.collection mapped time) := by
  unfold placing
  rw [latest]
  rfl

theorem placing_some (mapped : Record) (x : CanonicalObject) :
    w.placing w.collection mapped time (some x) =
      some (.changeObject x.id (w.mapper.merge mapped x.data) (w.seed (.synced time))) := by
  unfold placing
  rw [latest]
  rfl

theorem fresh_import (fresh : ∃ o ∈ s.store.objects, w.Fresh time id o) (evaluate : Evaluator)
    (record : Record) :
    ∃ o ∈ (w.importRecord evaluate w.collection record time false s).2.store.objects,
      w.Fresh time id o := by
  obtain ⟨o, member, same, named, status⟩ := fresh
  rcases import_objects w evaluate w.collection record time s with
    kept | ⟨mapped, _, there, x, _, _, placed, written⟩
  · rw [kept.objects]
    exact ⟨o, member, same, named, status⟩
  · rw [written.objects]
    cases there with
    | none =>
      cases (placing_none latest mapped).symm.trans placed
      exact ⟨o, Store.mem_apply.2 (Or.inl ⟨o, member, rfl⟩), same, named, status⟩
    | some x =>
      -- An object that is matched once more is reported once more.
      cases (placing_some latest mapped x).symm.trans placed
      refine ⟨_, Store.mem_apply.2 (Or.inl ⟨o, member, rfl⟩), ?_⟩
      split
      · exact fresh_overwritten same named _
      · exact ⟨same, named, status⟩

omit latest in
theorem fresh_of_created
    (ended : (w.importRecord evaluate w.collection record time false s).1 = .ok .created) :
    ∃ o ∈ (w.importRecord evaluate w.collection record time false s).2.store.objects,
      w.Fresh time ⟨s.store.nextObject⟩ o := by
  obtain ⟨mapped, key, asks⟩ := exists_asks ended (by decide)
  obtain ⟨_, _, written⟩ := created_cases asks (Prod.ext ended rfl)
  let object : CanonicalObject :=
    ⟨⟨s.store.nextObject⟩, w.collection, 1, mapped, [(w.endpoint, .synced time)]⟩
  have born : object ∈ (s.store.apply false (w.creation w.collection mapped time)).objects :=
    Store.mem_apply.2 (Or.inr (List.mem_singleton_self _))
  exact ⟨object, written.objects ▸ born, rfl, rfl, if_pos rfl⟩

theorem fresh_of_matched {mapped key : Record} {x : CanonicalObject} {o : Outcome} (calm : s.Calm)
    (ended : (w.importRecord evaluate w.collection record time false s).1 = .ok o)
    (other : o ≠ .skipped) (mapping : w.mapper.map evaluate record = .ok mapped)
    (keyed : identity mapped w.identifiers = .ok key)
    (only : counterparts s.store w.collection key = [x]) :
    ∃ o ∈ (w.importRecord evaluate w.collection record time false s).2.store.objects,
      w.Fresh time x.id o := by
  obtain ⟨mapped', key', asks⟩ := exists_asks ended other
  cases asks.mapping.symm.trans mapping
  cases asks.key.symm.trans keyed
  have answers : (s.store.lookup w.collection (keyFilter key)).Answers (some x) :=
    Lookup.answers_ofMatches.2 only
  obtain ⟨member, named, _, _⟩ := Store.lookup_eq_found answers
  have written := import_objects_of_calm asks calm answers time
  rw [placing_some latest] at written
  have treated : Store.overwritten x (w.mapper.merge mapped x.data) (some (w.seed (.synced time))) ∈
      (s.store.apply false (.changeObject x.id (w.mapper.merge mapped x.data)
        (w.seed (.synced time)))).objects :=
    Store.mem_apply.2 (Or.inl ⟨x, member, by simp [StoreWrite.treat]⟩)
  exact ⟨_, written.objects ▸ treated, fresh_overwritten rfl named _⟩

theorem fresh_of_concerns (calm : s.Calm) (concerns : Concerns w evaluate record time s id) :
    ∃ o ∈ (w.importRecord evaluate w.collection record time false s).2.store.objects,
      w.Fresh time id o := by
  cases concerns with
  | created ended => exact fresh_of_created ended
  | matched ended mapping keyed only =>
    rcases ended with ended | ended <;>
      exact fresh_of_matched latest calm ended (by decide) mapping keyed only

theorem fresh_imports (evaluate : Evaluator) (records : List Record) (index : Nat)
    (report : Report) (fresh : ∃ o ∈ s.store.objects, w.Fresh time id o) :
    ∃ o ∈ (Batch.trackAll (w.imports evaluate time false index records) report s).2.store.objects,
      w.Fresh time id o :=
  imports_invariant (fun t => ∃ o ∈ t.store.objects, w.Fresh time id o)
    (fun record _ fresh => fresh_import latest fresh evaluate record) records index report fresh

theorem fresh_of_reports (calm : s.Calm) (reports : Reports w evaluate time records s id)
    (index : Nat) (report : Report) :
    ∃ o ∈ (Batch.trackAll (w.imports evaluate time false index records) report s).2.store.objects,
      w.Fresh time id o := by
  induction reports generalizing index report with
  | @here record rest _ _ concerns =>
    exact fresh_imports latest evaluate rest _ _ (fresh_of_concerns latest calm concerns)
  | later _ ih => exact ih ((onlyStore_import _ _ _ _ _ _).calm calm) _ _

end Imports

theorem onlyStore_imports (w : Workflow) (evaluate : Evaluator) (records : List Record)
    (time : Timestamp) (index : Nat) (report : Report) (s : Session) :
    s.OnlyStore (Batch.trackAll (w.imports evaluate time false index records) report s).2 :=
  imports_invariant s.OnlyStore (fun _ _ before => before.trans (onlyStore_import _ _ _ _ _ _))
    records index report ⟨rfl, rfl⟩

theorem uniqueObjects_imports (unique : s.store.UniqueObjects) (evaluate : Evaluator)
    (records : List Record) (index : Nat) (report : Report) :
    (Batch.trackAll (w.imports evaluate time false index records) report
      s).2.store.UniqueObjects :=
  imports_invariant (fun t => t.store.UniqueObjects)
    (fun _ _ unique => (succeeds_import _ _ _ _ _ _).unique unique) records index report unique

section Sweeps

variable (latest : w.ensure = .latest)

include latest

theorem sweeping_of_latest (evaluate : Evaluator) (x : CanonicalObject) :
    w.sweeping evaluate x time = if w.admits evaluate x.data = true then
      some (.changeObject x.id (w.mapper.merge x.data x.data) (w.seed (.gone time)))
    else none := by
  unfold sweeping
  rw [latest]
  cases w.admits evaluate x.data <;> rfl

theorem objects_cleanUp {x : CanonicalObject} (bound : s.endpoint.name = w.endpoint)
    (calm : s.Calm) (unique : s.store.UniqueObjects) (stored : x ∈ s.store.objects)
    (evaluate : Evaluator) (time : Timestamp) :
    (w.cleanUp evaluate x time false s).2.store.objects = s.store.objects.map fun o =>
      if o = x ∧ w.admits evaluate o.data = true then w.marked time o else o := by
  have written := cleanUp_objects_of_calm w evaluate bound ⟨x, stored, rfl⟩ calm time
  rw [written.objects, sweeping_of_latest latest]
  by_cases admitted : w.admits evaluate x.data = true
  · rw [if_pos admitted, Option.toList_some, Store.written_cons, Store.written_nil,
      Store.objects_apply]
    simp only [StoreWrite.born, List.append_nil, StoreWrite.treat, List.filterMap_eq_map']
    apply List.map_congr_left
    intro o member
    by_cases same : o.id = x.id
    · cases unique.eq_of_id_eq member stored same
      rw [if_pos rfl, if_pos ⟨rfl, admitted⟩]
      rfl
    · rw [if_neg same, if_neg fun both => same (congrArg CanonicalObject.id both.1)]
  · have kept : ∀ o ∈ s.store.objects,
        (if o = x ∧ w.admits evaluate o.data = true then w.marked time o else o) = o := by
      intro o _
      refine if_neg ?_
      rintro ⟨rfl, passed⟩
      exact admitted passed
    rw [if_neg admitted, List.map_congr_left kept, List.map_id']
    rfl

omit latest in
theorem onlyStore_cleanUp {x : CanonicalObject} (bound : s.endpoint.name = w.endpoint)
    (stored : x ∈ s.store.objects) (evaluate : Evaluator) (time : Timestamp) :
    s.OnlyStore (w.cleanUp evaluate x time false s).2 :=
  (performs_cleanUp w evaluate bound ⟨x, stored, rfl⟩ time).beside

theorem objects_cleanUps {xs : List CanonicalObject} (bound : s.endpoint.name = w.endpoint)
    (calm : s.Calm) (unique : s.store.UniqueObjects) (stored : ∀ x ∈ xs, x ∈ s.store.objects)
    (nodup : (xs.map CanonicalObject.id).Nodup) (evaluate : Evaluator) (report : Report) :
    (Batch.trackAll (xs.map fun o => (o.id.render, w.cleanUp evaluate o time false)) report
      s).2.store.objects = s.store.objects.map fun o =>
        if o ∈ xs ∧ w.admits evaluate o.data = true then w.marked time o else o := by
  -- The list was drawn up before the first write. Identifiers differ, so what is still to come stands
  -- as it was listed, and what has been marked is not met again.
  induction xs generalizing report s with
  | nil =>
    show s.store.objects = _
    simp
  | cons x rest ih =>
    obtain ⟨now, later⟩ := List.forall_mem_cons.1 stored
    rw [List.map_cons, List.nodup_cons] at nodup
    have apart {y : CanonicalObject} (same : y.id = x.id) : y ∉ rest := fun member =>
      nodup.1 (same ▸ List.mem_map_of_mem member)
    have swept := objects_cleanUp latest bound calm unique now evaluate time
    have beside := onlyStore_cleanUp bound now evaluate time
    refine (ih ((congrArg Endpoint.name beside.endpoint).trans bound) (beside.calm calm)
      ((succeeds_cleanUp w evaluate ⟨x, now, rfl⟩ time).unique unique) (fun y member => ?_)
      nodup.2 _).trans ?_
    · rw [swept]
      refine List.mem_map.2 ⟨y, later y member, if_neg ?_⟩
      rintro ⟨rfl, _⟩
      exact apart rfl member
    · rw [swept, List.map_map]
      apply List.map_congr_left
      intro o _
      by_cases same : o = x
      · subst same
        have marked : w.marked time o ∉ rest := apart rfl
        by_cases admitted : w.admits evaluate o.data = true <;> simp [admitted, marked]
      · simp [same]

theorem objects_collectGarbage (bound : s.endpoint.name = w.endpoint) (calm : s.Calm)
    (unique : s.store.UniqueObjects) (evaluate : Evaluator) (time : Timestamp) :
    ∃ report t, w.collectGarbage evaluate time false s = (.ok report, t) ∧
      t.store.objects = s.store.objects.map fun o =>
        if o ∈ s.store.stale w.collection w.endpoint time ∧ w.admits evaluate o.data = true then
          w.marked time o else o := by
  let stale := s.store.stale w.collection w.endpoint time
  let listed := s.logged (.store (.stale w.collection w.endpoint time))
  have run : w.collectGarbage evaluate time false s =
      Batch.trackAll (stale.map fun o => (o.id.render, w.cleanUp evaluate o time false)) .empty
        listed := by
    unfold collectGarbage
    rw [Sync.get_bind, bound]
    exact Sync.bind_of_ok (Sync.storeCall_of_calm calm)
  have sublist : stale.Sublist s.store.objects := List.filter_sublist.trans List.filter_sublist
  refine ⟨_, _, run.trans (Prod.ext (Batch.trackAll_fst _ .empty listed) rfl), ?_⟩
  exact objects_cleanUps (s := listed) latest bound calm unique
    (fun _ member => sublist.subset member) (unique.ids.sublist (sublist.map _)) evaluate .empty

end Sweeps

theorem mem_stale {store : Store} {o : CanonicalObject} :
    o ∈ store.stale w.collection w.endpoint time ↔
      o ∈ store.objects ∧ o.collection = w.collection ∧ w.Outdated time o := by
  unfold Store.stale Store.inCollection Outdated
  rw [List.mem_filter, List.mem_filter, decide_eq_true_eq, and_assoc]
  cases o.statusFor w.endpoint <;> simp

-- After a batch of imports and the sweep of the same run the objects that the batch created or
-- matched are fresh, those last reported before it are marked where the condition accepts them, and
-- all others are as the batch left them.
theorem sweep_marks_unreported {w : Workflow} {evaluate : Evaluator} {records : List Record}
    {time : Timestamp} {s t : Session} {r : Except WorkflowError Report}
    (latest : w.ensure = .latest) (bound : s.endpoint.name = w.endpoint) (calm : s.Calm)
    (unique : s.store.UniqueObjects)
    (imported : w.importAll evaluate records time false s = (r, t)) :
    ∃ report u, w.collectGarbage evaluate time false t = (.ok report, u) ∧
      u.store.objects.map CanonicalObject.id = t.store.objects.map CanonicalObject.id ∧
      (∀ id, Reports w evaluate time records s id → ∃ o ∈ u.store.objects, o.id = id ∧
        o.collection = w.collection ∧ o.statusFor w.endpoint = some (.synced time)) ∧
      (∀ o ∈ t.store.objects, w.Due evaluate time o → ∃ y ∈ u.store.objects, y.id = o.id ∧
        y.collection = w.collection ∧ y.statusFor w.endpoint = some (.gone time)) ∧
      ∀ o ∈ t.store.objects, ¬ w.Due evaluate time o → o ∈ u.store.objects := by
  have run : t = (Batch.trackAll (w.imports evaluate time false 0 records) .empty s).2 :=
    (congrArg Prod.snd imported).symm
  have beside := onlyStore_imports w evaluate records time 0 .empty s
  rw [← run] at beside
  obtain ⟨report, u, swept, objects⟩ := objects_collectGarbage latest
    ((congrArg Endpoint.name beside.endpoint).trans bound) (beside.calm calm)
    (run ▸ uniqueObjects_imports unique evaluate records 0 .empty) evaluate time
  have due {o : CanonicalObject} (member : o ∈ t.store.objects) :
      (o ∈ t.store.stale w.collection w.endpoint time ∧ w.admits evaluate o.data = true) ↔
        w.Due evaluate time o := by
    rw [mem_stale]
    exact ⟨fun ⟨⟨_, named, outdated⟩, admitted⟩ => ⟨named, outdated, admitted⟩,
      fun ⟨named, outdated, admitted⟩ => ⟨⟨member, named, outdated⟩, admitted⟩⟩
  have left : ∀ o ∈ t.store.objects, ¬ w.Due evaluate time o → o ∈ u.store.objects := by
    intro o member spared
    rw [objects]
    exact List.mem_map.2 ⟨o, member, if_neg fun listed => spared ((due member).1 listed)⟩
  refine ⟨report, u, swept, ?_, fun id reports => ?_, fun o member marks => ?_, left⟩
  · rw [objects, List.map_map]
    apply List.map_congr_left
    intro o _
    show (if _ then w.marked time o else o).id = o.id
    split <;> rfl
  · obtain ⟨o, member, same, named, status⟩ :=
      fresh_of_reports latest calm reports 0 .empty
    rw [← run] at member
    refine ⟨o, left o member fun marks => ?_, same, named, status⟩
    -- What carries the time of the run is not older than the run.
    obtain ⟨earlier, listed, before⟩ := marks.outdated
    cases status.symm.trans listed
    simp [SyncStatus.synced, Timestamp.before] at before
  · refine ⟨w.marked time o, ?_, rfl, marks.named, ?_⟩
    · rw [objects]
      exact List.mem_map.2 ⟨o, member, if_pos ((due member).2 marks)⟩
    · unfold marked
      rw [CanonicalObject.statusFor_overwritten]
      exact if_pos rfl

theorem sweep_marks_unreported_bob :
    let bob : CanonicalObject := { person 1 "bob" with status := [("ldap", .synced ⟨1, 0⟩)] }
    let carl := person 2 "carl"
    let s : Session := ⟨⟨[bob, carl], [], 3, 1⟩, .named "ldap", [], .never⟩
    let evaluate : Evaluator := fun _ _ => .ok .null
    ∃ w t report u, ofSpec (Pattern.among []) (superiorsSpec .latest) = .ok w ∧ w.ensure = .latest ∧
      s.endpoint.name = w.endpoint ∧ s.Calm ∧ s.store.UniqueObjects ∧
      (w.importAll evaluate [annUnderBob] ⟨2, 0⟩ false s).2 = t ∧
      w.collectGarbage evaluate ⟨2, 0⟩ false t = (.ok report, u) ∧
      (∃ o ∈ u.store.objects, o.id = ⟨3⟩ ∧ o.statusFor "ldap" = some (.synced ⟨2, 0⟩)) ∧
      (∃ o ∈ u.store.objects, o.id = ⟨1⟩ ∧ o.statusFor "ldap" = some (.gone ⟨2, 0⟩)) ∧
      carl ∈ u.store.objects := by
  intro bob carl s evaluate
  let w := superiors .latest Ensure.latest_ne_merge
  have unique : s.store.UniqueObjects := ⟨by decide, by decide⟩
  have reports : Reports w evaluate ⟨2, 0⟩ [annUnderBob] s ⟨3⟩ := by
    refine .here (.created (s := s) ?_)
    rw [importRecord_of_asks (asks_superiors Ensure.latest_ne_merge rfl)]
    rfl
  have due : w.Due evaluate ⟨2, 0⟩ bob := ⟨rfl, ⟨_, rfl, by decide⟩, rfl⟩
  have spared : ¬ w.Due evaluate ⟨2, 0⟩ carl := fun due => by
    obtain ⟨_, listed, _⟩ := due.outdated
    cases listed
  have imported : w.importAll evaluate [annUnderBob] ⟨2, 0⟩ false s =
      ((w.importAll evaluate [annUnderBob] ⟨2, 0⟩ false s).1, _) := rfl
  obtain ⟨report, u, swept, _, fresh, marked, left⟩ :=
    sweep_marks_unreported rfl rfl (fun _ _ => rfl) unique imported
  obtain ⟨o, oMember, oId, _, oStatus⟩ := fresh _ reports
  obtain ⟨y, yMember, yId, _, yStatus⟩ := marked bob (by decide +kernel) due
  exact ⟨w, _, report, u, ofSpec_superiors _ _ _, rfl, rfl, fun _ _ => rfl, unique, rfl, swept,
    ⟨o, oMember, oId, oStatus⟩, ⟨y, yMember, yId, yStatus⟩, left carl (by decide +kernel) spared⟩

end Workflow

end RecordSync
