import RecordSync.Proofs.ImportPlans

set_option autoImplicit false

namespace RecordSync

namespace StoreWrite

def OnEdge : StoreWrite → Prop
  | .createRelation _ _ _ | .updateRelation _ _ | .deleteRelation _ => True
  | .createObject _ _ _ | .changeObject _ _ _ | .deleteObject _ => False

instance (x : StoreWrite) : Decidable x.OnEdge :=
  match x with
  | .createRelation _ _ _ | .updateRelation _ _ | .deleteRelation _ => isTrue trivial
  | .createObject _ _ _ | .changeObject _ _ _ | .deleteObject _ => isFalse id

def onObjects (xs : List StoreWrite) : List StoreWrite := xs.filter fun x => ¬ x.OnEdge

variable {x : StoreWrite} {xs ys : List StoreWrite}

theorem onObjects_eq_nil (edges : ∀ x ∈ xs, x.OnEdge) : onObjects xs = [] :=
  List.filter_eq_nil_iff.2 fun x member => by simpa using edges x member

theorem onObjects_cons (object : ¬ x.OnEdge) : onObjects (x :: xs) = x :: onObjects xs :=
  List.filter_cons_of_pos (by simpa using object)

theorem onObjects_append : onObjects (xs ++ ys) = onObjects xs ++ onObjects ys :=
  List.filter_append _ _

def treat (o : CanonicalObject) : StoreWrite → Option CanonicalObject
  | .changeObject id data seed =>
    some (if o.id = id then Store.overwritten o data (some seed) else o)
  | .deleteObject id => if o.id = id then none else some o
  | .createObject _ _ _ | .createRelation _ _ _ | .updateRelation _ _ | .deleteRelation _ => some o

theorem eq_of_treat_delete {id : ObjectId} {o y : CanonicalObject}
    (treated : (deleteObject id).treat o = some y) : y = o := by
  by_cases same : o.id = id <;> simp [treat, same] at treated
  exact treated.symm

theorem id_of_treat {o y : CanonicalObject}
    (treated : x.treat o = some y) : y.id = o.id := by
  cases x with
  | changeObject id data seed =>
    cases treated
    split <;> rfl
  | deleteObject id => rw [eq_of_treat_delete treated]
  | _ =>
    cases treated
    rfl

def born (next : Nat) : StoreWrite → List CanonicalObject
  | .createObject collection data seed =>
    [⟨⟨next⟩, collection, 1, data, [(seed.endpoint, seed.status)]⟩]
  | .changeObject _ _ _ | .deleteObject _ | .createRelation _ _ _ | .updateRelation _ _
  | .deleteRelation _ => []

theorem born_cases (x : StoreWrite) :
    (∀ next, x.born next = []) ∨
      ∃ collection data seed, x = .createObject collection data seed := by
  cases x with
  | createObject collection data seed => exact Or.inr ⟨collection, data, seed, rfl⟩
  | _ => exact Or.inl fun _ => rfl

theorem id_of_born {o : CanonicalObject} {next : Nat} (born : o ∈ x.born next) :
    o.id = ⟨next⟩ := by
  rcases x.born_cases with silent | ⟨collection, data, seed, rfl⟩
  · rw [silent] at born
    cases born
  · rw [List.mem_singleton.1 born]

end StoreWrite

theorem CanonicalObject.statusFor_overwritten (o : CanonicalObject) (data : Record)
    (seed : StatusSeed) (endpoint : String) :
    (Store.overwritten o data (some seed)).statusFor endpoint =
      if endpoint = seed.endpoint then some seed.status else o.statusFor endpoint :=
  Keyed.get?_insertSorted _ _ _ _

namespace Store

structure SameObjects (s t : Store) : Prop where
  objects : t.objects = s.objects
  nextObject : t.nextObject = s.nextObject

variable {s t u : Store} {x : StoreWrite}

theorem SameObjects.refl (s : Store) : SameObjects s s := ⟨rfl, rfl⟩

theorem SameObjects.trans (first : SameObjects s t) (second : SameObjects t u) : SameObjects s u :=
  ⟨second.objects.trans first.objects, second.nextObject.trans first.nextObject⟩

theorem SameObjects.unique (same : SameObjects s t) (unique : s.UniqueObjects) :
    t.UniqueObjects := by
  refine ⟨?_, ?_⟩
  · rw [same.objects]
    exact unique.ids
  · rw [same.objects, same.nextObject]
    exact unique.below

theorem SameObjects.lookup_eq (same : SameObjects s t) (collection : String) (filter : Filter) :
    t.lookup collection filter = s.lookup collection filter := by
  unfold lookup inCollection
  rw [same.objects]

theorem objects_apply (s : Store) (x : StoreWrite) :
    (s.apply false x).objects =
      s.objects.filterMap (StoreWrite.treat · x) ++ x.born s.nextObject := by
  cases x with
  | createRelation | updateRelation | deleteRelation =>
    simp [apply, createRelation, updateRelation, deleteRelation, StoreWrite.treat, StoreWrite.born]
  | createObject collection data seed =>
    simp [apply, create, StoreWrite.treat, StoreWrite.born, CanonicalObject.withSeed,
      Keyed.insertSorted]
  | deleteObject id =>
    rw [StoreWrite.born, List.append_nil]
    show s.objects.filter _ = _
    rw [← List.filterMap_eq_filter]
    apply List.filterMap_congr
    intro o _
    by_cases same : o.id = id <;> simp [StoreWrite.treat, same, Option.guard]
  | changeObject id data seed =>
    simp only [StoreWrite.born, List.append_nil, StoreWrite.treat, List.filterMap_eq_map']
    cases changed : s.change id data false (some seed) with
    | ok t => rw [apply_change changed, (real_change_eq_ok changed).2]
    | error e =>
      -- The store refuses the change, since none of the objects has the identifier.
      have missing : ∀ o ∈ s.objects, o.id ≠ id := by
        rintro o member rfl
        obtain ⟨t, taken⟩ := change_of_mem member data (some seed)
        cases changed.symm.trans taken
      simp only [apply, changed]
      rw [List.map_congr_left fun o member => if_neg (missing o member), List.map_id']

theorem nextObject_apply (s : Store) (x : StoreWrite) :
    (s.apply false x).nextObject = s.nextObject + (x.born s.nextObject).length := by
  cases x with
  | changeObject id data seed =>
    cases changed : s.change id data false (some seed) with
    | ok t =>
      rw [apply_change changed, (real_change_eq_ok changed).2]
      rfl
    | error e =>
      simp only [apply, changed]
      rfl
  | _ => rfl

theorem mem_apply {y : CanonicalObject} :
    y ∈ (s.apply false x).objects ↔
      (∃ o ∈ s.objects, x.treat o = some y) ∨ y ∈ x.born s.nextObject := by
  rw [objects_apply, List.mem_append, List.mem_filterMap]

theorem SameObjects.apply (same : SameObjects s t) (x : StoreWrite) :
    SameObjects (s.apply false x) (t.apply false x) := by
  refine ⟨?_, ?_⟩
  · rw [objects_apply, objects_apply, same.objects, same.nextObject]
  · rw [nextObject_apply, nextObject_apply, same.nextObject]

theorem SameObjects.written (same : SameObjects s t) (xs : List StoreWrite) :
    SameObjects (s.written false xs) (t.written false xs) := by
  induction xs generalizing s t with
  | nil => exact same
  | cons x xs ih => exact ih (same.apply x)

theorem sameObjects_apply (edge : x.OnEdge) : SameObjects s (s.apply false x) := by
  cases x with
  | createObject | changeObject | deleteObject => exact edge.elim
  | createRelation | updateRelation | deleteRelation => exact ⟨rfl, rfl⟩

theorem sameObjects_written (s : Store) (xs : List StoreWrite) :
    SameObjects (s.written false (StoreWrite.onObjects xs)) (s.written false xs) := by
  induction xs generalizing s with
  | nil => exact .refl s
  | cons x xs ih =>
    by_cases edge : x.OnEdge
    · have left : StoreWrite.onObjects (x :: xs) = StoreWrite.onObjects xs :=
        List.filter_cons_of_neg (by simpa using edge)
      rw [left]
      exact ((sameObjects_apply edge).written _).trans (ih _)
    · rw [StoreWrite.onObjects_cons edge]
      exact ih _

theorem UniqueObjects.apply (unique : s.UniqueObjects) (x : StoreWrite) :
    (s.apply false x).UniqueObjects := by
  cases x with
  | createObject collection data seed => exact unique.create collection data false (some seed)
  | deleteObject id => exact unique.delete id false
  | createRelation | updateRelation | deleteRelation => exact ⟨unique.ids, unique.below⟩
  | changeObject id data seed =>
    cases changed : s.change id data false (some seed) with
    | ok t =>
      rw [apply_change changed]
      exact unique.change changed
    | error e =>
      simp only [Store.apply, changed]
      exact unique

-- What a step leaves of the identities: objects keep their identifiers, and what comes anew has one
-- of its own.
structure Succeeds (s t : Store) : Prop where
  unique : s.UniqueObjects → t.UniqueObjects
  counter : s.nextObject ≤ t.nextObject
  older : ∀ y ∈ t.objects, y.id.number < s.nextObject → s.Has y.id

theorem exists_treated {y : CanonicalObject} (after : y ∈ (s.apply false x).objects)
    (older : y.id.number < s.nextObject) : ∃ o ∈ s.objects, x.treat o = some y := by
  rcases mem_apply.1 after with there | born
  · exact there
  · rw [StoreWrite.id_of_born born] at older
    exact absurd older (Nat.lt_irrefl _)

theorem SameObjects.succeeds (same : s.SameObjects t) : s.Succeeds t :=
  ⟨same.unique, Nat.le_of_eq same.nextObject.symm, fun y member _ => ⟨y, same.objects ▸ member, rfl⟩⟩

theorem SameObjects.succeeds_apply (same : (s.apply false x).SameObjects t) : s.Succeeds t := by
  refine ⟨fun unique => same.unique (unique.apply x), ?_, fun y member older => ?_⟩
  · rw [same.nextObject, nextObject_apply]
    exact Nat.le_add_right _ _
  · obtain ⟨o, there, treated⟩ := exists_treated (same.objects ▸ member) older
    exact ⟨o, there, (StoreWrite.id_of_treat treated).symm⟩

end Store

namespace Sync.Performs

variable {α : Type} {act : Sync α} {s : Session} {plan : Plan α} {wanted : Option StoreWrite}

theorem objects (performs : Performs act s false plan)
    (planned : StoreWrite.onObjects plan.writes = wanted.toList) :
    s.store.SameObjects (act s).2.store ∨
      ∃ x, wanted = some x ∧ (s.store.apply false x).SameObjects (act s).2.store := by
  obtain ⟨part, before, store⟩ := performs.exists_prefix
  have same := s.store.sameObjects_written part
  -- Any part of the writes has the one that is wanted, or it has edges only.
  have made : StoreWrite.onObjects part <+: wanted.toList := planned ▸ before.filter _
  rw [← store] at same
  cases wanted with
  | none =>
    rw [List.prefix_nil.1 made] at same
    exact Or.inl same
  | some x =>
    rcases List.prefix_cons_iff.1 made with nothing | ⟨rest, whole, nothing⟩
    · rw [nothing] at same
      exact Or.inl same
    · rw [whole, List.prefix_nil.1 nothing] at same
      exact Or.inr ⟨x, rfl, same⟩

theorem objects_of_calm (performs : Performs act s false plan) (calm : s.Calm)
    (planned : StoreWrite.onObjects plan.writes = wanted.toList) :
    (s.store.written false wanted.toList).SameObjects (act s).2.store := by
  rw [(performs.of_calm calm).2, ← planned]
  exact s.store.sameObjects_written plan.writes

end Sync.Performs

namespace Relations

theorem onEdge_clearing (edges : List Relation) : ∀ x ∈ clearing edges, x.OnEdge := by
  intro x member
  obtain ⟨edge, _, rfl⟩ := List.mem_map.1 member
  exact trivial

theorem Aim.onEdge_writes (a : Aim) (d : AttributeDefinition) (source : ObjectId)
    (current : List Relation) : ∀ x ∈ a.writes d source current, x.OnEdge := by
  intro x member
  cases a with
  | leave | miss => cases member
  | clear => exact onEdge_clearing current x member
  | point target =>
    cases current with
    | nil =>
      cases List.mem_singleton.1 member
      exact trivial
    | cons edge extra =>
      rcases List.mem_append.1 member with cleared | retargeted
      · exact onEdge_clearing extra x cleared
      · split at retargeted
        · cases List.mem_singleton.1 retargeted
          exact trivial
        · cases retargeted

theorem onEdge_planAll (targets : Targets) (source : ObjectId) (data : Record)
    (relations : List Relation) (ds : List AttributeDefinition) :
    ∀ x ∈ (planAll targets source data relations ds).writes, x.OnEdge := by
  induction ds with
  | nil => exact fun _ member => nomatch member
  | cons d ds ih =>
    intro x member
    cases aimed : aim targets data d with
    | error e =>
      rw [planAll_cons_of_error aimed] at member
      cases member
    | ok a =>
      rw [planAll_cons_of_ok aimed] at member
      rcases List.mem_append.1 member with mine | later
      · exact a.onEdge_writes d source _ x mine
      · exact ih x later

theorem onObjects_plan (m : Mapper) (source : ObjectId) (data : Record) (s : Store) :
    StoreWrite.onObjects (plan m source data s).writes = [] :=
  StoreWrite.onObjects_eq_nil (onEdge_planAll _ _ _ _ _)

end Relations

namespace Workflow

variable {w : Workflow} {evaluate : Evaluator} {collection : String} {record mapped key : Record}
  {time : Timestamp} {s t : Session} {object : CanonicalObject}

theorem onObjects_planWrite {write : StoreWrite} (ofObject : ¬ write.OnEdge) (id : ObjectId)
    (data : Record) (outcome : EdgeChanges → Outcome) (store : Store) :
    StoreWrite.onObjects (w.planWrite write id data false outcome store).writes = [write] := by
  unfold planWrite
  rw [StoreWrite.onObjects_cons ofObject, Relations.onObjects_plan]

theorem onObjects_planRemove (id : ObjectId) (store : Store) :
    StoreWrite.onObjects (planRemove id store).writes = [.deleteObject id] := by
  unfold planRemove
  rw [StoreWrite.onObjects_append, StoreWrite.onObjects_eq_nil (Relations.onEdge_clearing _)]
  rfl

def placing (w : Workflow) (collection : String) (mapped : Record) (time : Timestamp)
    (there : Option CanonicalObject) : Option StoreWrite :=
  match w.ensure.step there with
  | .create => some (w.creation collection mapped time)
  | .update x => some (.changeObject x.id (w.mapper.merge mapped x.data) (w.seed (.synced time)))
  | .delete x => some (.deleteObject x.id)
  | .nothing => none

theorem onObjects_planPlace (w : Workflow) (collection : String) (mapped : Record)
    (time : Timestamp) (there : Option CanonicalObject) (store : Store) :
    StoreWrite.onObjects (w.planPlace collection mapped time false there store).writes =
      (w.placing collection mapped time there).toList := by
  unfold planPlace placing
  cases w.ensure.step there with
  | nothing => rfl
  | create => exact onObjects_planWrite id _ _ _ _
  | update x => exact onObjects_planWrite id _ _ _ _
  | delete x => exact onObjects_planRemove x.id store

theorem onlyStore_import (w : Workflow) (evaluate : Evaluator) (collection : String)
    (record : Record) (time : Timestamp) (s : Session) :
    s.OnlyStore (w.importRecord evaluate collection record time false s).2 := by
  by_cases passed : ∃ mapped key, Asks w evaluate record mapped key s
  · obtain ⟨mapped, key, asks⟩ := passed
    exact (performs_import asks collection time false).beside
  · rcases importRecord_of_not_asks passed with declines | ⟨e, _, failed⟩
    · rw [importRecord_of_declines declines]
      exact ⟨rfl, rfl⟩
    · rw [failed]
      exact ⟨rfl, rfl⟩

-- However an import ends, the objects are as before, or as the write of the one it is about leaves
-- them.
theorem import_objects (w : Workflow) (evaluate : Evaluator) (collection : String)
    (record : Record) (time : Timestamp) (s : Session) :
    s.store.SameObjects (w.importRecord evaluate collection record time false s).2.store ∨
      ∃ mapped key there x, Asks w evaluate record mapped key s ∧
        (s.store.lookup collection (keyFilter key)).Answers there ∧
        w.placing collection mapped time there = some x ∧ (s.store.apply false x).SameObjects
          (w.importRecord evaluate collection record time false s).2.store := by
  by_cases passed : ∃ mapped key, Asks w evaluate record mapped key s
  · obtain ⟨mapped, key, asks⟩ := passed
    have performs := performs_import asks collection time false
    rcases planSettle_cases w collection mapped key time s.store with
      ⟨there, answers, planned⟩ | ⟨count, planned⟩ <;> rw [planned] at performs
    · rcases performs.objects (onObjects_planPlace _ _ _ _ _ _) with same | ⟨x, placed, same⟩
      · exact Or.inl same
      · exact Or.inr ⟨mapped, key, there, x, asks, answers, placed, same⟩
    · have nothing : StoreWrite.onObjects [] = (none : Option StoreWrite).toList := rfl
      exact (performs.objects nothing).imp_right fun ⟨_, made, _⟩ => nomatch made
  · rcases importRecord_of_not_asks passed with declines | ⟨e, _, failed⟩
    · rw [importRecord_of_declines declines]
      exact Or.inl (.refl _)
    · rw [failed]
      exact Or.inl (.refl _)

theorem import_objects_of_calm (asks : Asks w evaluate record mapped key s) (calm : s.Calm)
    {there : Option CanonicalObject}
    (answers : (s.store.lookup collection (keyFilter key)).Answers there) (time : Timestamp) :
    (s.store.written false (w.placing collection mapped time there).toList).SameObjects
      (w.importRecord evaluate collection record time false s).2.store := by
  have performs := performs_import asks collection time false
  rw [planSettle_of_answers answers] at performs
  exact performs.objects_of_calm calm (onObjects_planPlace _ _ _ _ _ _)

theorem succeeds_import (w : Workflow) (evaluate : Evaluator) (collection : String)
    (record : Record) (time : Timestamp) (s : Session) :
    s.store.Succeeds (w.importRecord evaluate collection record time false s).2.store := by
  rcases import_objects w evaluate collection record time s with
    same | ⟨_, _, _, _, _, _, _, same⟩
  · exact same.succeeds
  · exact same.succeeds_apply

theorem step_of_created {simulate : Bool} {there : Option CanonicalObject} {store : Store}
    (created : (w.planPlace collection mapped time simulate there store).result = .ok .created) :
    w.ensure.step there = .create := by
  unfold planPlace at created
  cases step : w.ensure.step there with
  | create => rfl
  | nothing =>
    rw [step] at created
    cases created
  | delete object =>
    rw [step] at created
    cases created
  | update object =>
    rw [step] at created
    obtain ⟨edges, _, written⟩ := Except.map_eq_ok created
    unfold Workflow.written at written
    split at written <;> cases written

theorem created_cases (asks : Asks w evaluate record mapped key s)
    (created : w.importRecord evaluate collection record time false s = (.ok .created, t)) :
    w.ensure.step (none : Option CanonicalObject) = .create ∧
      s.store.lookup collection (keyFilter key) = .notFound ∧
      (s.store.apply false (w.creation collection mapped time)).SameObjects t.store := by
  obtain ⟨result, stored⟩ := (performs_import asks collection time false).of_ok created
  rcases planSettle_cases w collection mapped key time s.store with
    ⟨there, answers, planned⟩ | ⟨count, planned⟩ <;> rw [planned] at result stored
  · have step := step_of_created result
    obtain ⟨rfl, _⟩ := Ensure.step_eq_create step
    refine ⟨step, answers, ?_⟩
    have same := s.store.sameObjects_written
      (w.planPlace collection mapped time false none s.store).writes
    rw [onObjects_planPlace, ← stored] at same
    unfold placing at same
    rw [step] at same
    exact same
  · cases result

def planCleanUp (w : Workflow) (evaluate : Evaluator) (object : CanonicalObject) (time : Timestamp)
    (s : Store) : Plan Outcome :=
  if !w.admits evaluate object.data then .done .skipped
  else
    match w.ensure with
    | .absent => planRemove object.id s
    | .latest =>
      w.planOverwrite object (w.mapper.merge object.data object.data) (.gone time) false s
    | .present | .merge => .done .unchanged

theorem performs_cleanUp (w : Workflow) (evaluate : Evaluator)
    (bound : s.endpoint.name = w.endpoint) (stored : s.store.Has object.id) (time : Timestamp) :
    Sync.Performs (w.cleanUp evaluate object time false) s false
      (w.planCleanUp evaluate object time s.store) := by
  have passes : w.cleanUp evaluate object time false s = (if !w.admits evaluate object.data then
      return .skipped
    else match w.ensure with
      | .absent => remove object.id false
      | .latest =>
        w.overwrite object (w.mapper.merge object.data object.data) (.gone time) false
      | .present | .merge => return .unchanged : Sync Outcome) s :=
    Sync.bind_of_ok (checkEndpoint_of_eq bound)
  refine Sync.Performs.congr passes ?_
  unfold planCleanUp
  cases w.admits evaluate object.data with
  | false => exact .pure _
  | true =>
    cases w.ensure with
    | absent => exact performs_remove object.id
    | present | merge => exact .pure _
    | latest =>
      obtain ⟨o, member, same⟩ := stored
      obtain ⟨store, changed⟩ := Store.change_of_mem member
        (w.mapper.merge object.data object.data) (some (w.seed (.gone time)))
      rw [same] at changed
      exact performs_overwrite changed

def sweeping (w : Workflow) (evaluate : Evaluator) (object : CanonicalObject) (time : Timestamp) :
    Option StoreWrite :=
  if !w.admits evaluate object.data then none
  else
    match w.ensure with
    | .absent => some (.deleteObject object.id)
    | .latest =>
      some (.changeObject object.id (w.mapper.merge object.data object.data) (w.seed (.gone time)))
    | .present | .merge => none

theorem onObjects_planCleanUp (w : Workflow) (evaluate : Evaluator) (object : CanonicalObject)
    (time : Timestamp) (store : Store) :
    StoreWrite.onObjects (w.planCleanUp evaluate object time store).writes =
      (w.sweeping evaluate object time).toList := by
  unfold planCleanUp sweeping
  cases w.admits evaluate object.data with
  | false => rfl
  | true =>
    cases w.ensure with
    | absent => exact onObjects_planRemove object.id store
    | latest => exact onObjects_planWrite id _ _ _ _
    | present | merge => rfl

theorem cleanUp_objects (w : Workflow) (evaluate : Evaluator) (stored : s.store.Has object.id)
    (time : Timestamp) :
    s.store.SameObjects (w.cleanUp evaluate object time false s).2.store ∨
      ∃ x, s.endpoint.name = w.endpoint ∧ w.sweeping evaluate object time = some x ∧
        (s.store.apply false x).SameObjects (w.cleanUp evaluate object time false s).2.store := by
  by_cases bound : s.endpoint.name = w.endpoint
  · have performs := performs_cleanUp w evaluate bound stored time
    exact (performs.objects (onObjects_planCleanUp _ _ _ _ _)).imp_right
      fun ⟨x, swept, same⟩ => ⟨x, bound, swept, same⟩
  · unfold cleanUp
    rw [Sync.bind_of_error (checkEndpoint_of_ne bound)]
    exact Or.inl (.refl _)

theorem succeeds_cleanUp (w : Workflow) (evaluate : Evaluator) (stored : s.store.Has object.id)
    (time : Timestamp) :
    s.store.Succeeds (w.cleanUp evaluate object time false s).2.store := by
  rcases cleanUp_objects w evaluate stored time with same | ⟨_, _, _, same⟩
  · exact same.succeeds
  · exact same.succeeds_apply

theorem cleanUp_objects_of_calm (w : Workflow) (evaluate : Evaluator)
    (bound : s.endpoint.name = w.endpoint) (stored : s.store.Has object.id) (calm : s.Calm)
    (time : Timestamp) :
    (s.store.written false (w.sweeping evaluate object time).toList).SameObjects
      (w.cleanUp evaluate object time false s).2.store :=
  (performs_cleanUp w evaluate bound stored time).objects_of_calm calm
    (onObjects_planCleanUp _ _ _ _ _)

end Workflow

end RecordSync
