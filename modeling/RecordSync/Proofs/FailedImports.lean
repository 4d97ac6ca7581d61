import RecordSync.Proofs.ImportPlans

set_option autoImplicit false

namespace RecordSync

theorem Relations.plan_eq_error {m : Mapper} {source : ObjectId} {data : Record} {s : Store}
    {e : WorkflowError} (unique : s.UniqueRelations)
    (failed : (plan m source data s).result = .error e) :
    ∃ before d after, m.related = before ++ d :: after ∧
      (∃ link count, e = .ambiguous (.relation d.name link) count) ∧
      s.EdgesUnder source (before.map AttributeDefinition.name)
        (s.written false (plan m source data s).writes) := by
  obtain ⟨before, d, after, related, ambiguous, same⟩ := planAll_eq_error failed
  refine ⟨before, d, after, related, ambiguous, ?_⟩
  have names : (before.map AttributeDefinition.name).Nodup := by
    have distinct := m.nodup_related
    rw [related, List.map_append] at distinct
    exact (List.nodup_append.1 distinct).1
  unfold plan
  rw [same]
  exact (planAll_written unique names (List.append_nil _).symm).1

namespace Workflow

variable {w : Workflow} {evaluate : Evaluator} {collection : String} {record mapped key : Record}
  {time : Timestamp} {s t : Session} {e : WorkflowError}

inductive Brings (w : Workflow) (collection : String) (mapped key : Record) (time : Timestamp)
    (s : Store) : ObjectId → Store → Prop
  | created (none : s.lookup collection (keyFilter key) = .notFound) :
    Brings w collection mapped key time s ⟨s.nextObject⟩
      (s.create collection mapped false (some (w.seed (.synced time)))).2
  | changed {object : CanonicalObject} {t : Store}
    (found : s.lookup collection (keyFilter key) = .found object)
    (changed : s.change object.id (w.mapper.merge mapped object.data) false
      (some (w.seed (.synced time))) = .ok t) :
    Brings w collection mapped key time s object.id t

theorem Brings.uniqueRelations {store brought : Store} {id : ObjectId}
    (brings : Brings w collection mapped key time store id brought)
    (unique : store.UniqueRelations) : brought.UniqueRelations := by
  cases brings with
  | created => exact ⟨unique.ids, unique.below⟩
  | changed _ changed => exact unique.change changed

-- The object of the import is written, and of its edges at most those of the attributes in front of
-- the one that links to several objects.
def StopsAtRelation (w : Workflow) (collection : String) (mapped key : Record) (time : Timestamp)
    (e : WorkflowError) (s t : Store) : Prop :=
  ∃ id brought before d after, Brings w collection mapped key time s id brought ∧
    w.mapper.related = before ++ d :: after ∧
    (∃ link count, e = .ambiguous (.relation d.name link) count) ∧
    brought.EdgesUnder id (before.map AttributeDefinition.name) t

theorem planWrite_eq_error {write : StoreWrite} {id : ObjectId} {data : Record}
    {outcome : EdgeChanges → Outcome} {store : Store} (unique : store.UniqueRelations)
    (brings : Brings w collection mapped key time store id (store.apply false write))
    (failed : (w.planWrite write id data false outcome store).result = .error e) :
    StopsAtRelation w collection mapped key time e store
      (store.written false (w.planWrite write id data false outcome store).writes) := by
  obtain ⟨before, d, after, related, ambiguous, under⟩ :=
    Relations.plan_eq_error (brings.uniqueRelations unique) (Except.map_eq_error failed)
  exact ⟨id, _, before, d, after, brings, related, ambiguous, under⟩

theorem planPlace_eq_error {store : Store} {there : Option CanonicalObject}
    (unique : store.UniqueRelations)
    (answers : (store.lookup collection (keyFilter key)).Answers there)
    (failed : (w.planPlace collection mapped time false there store).result = .error e) :
    StopsAtRelation w collection mapped key time e store
      (store.written false (w.planPlace collection mapped time false there store).writes) := by
  -- To do nothing or to delete cannot fail; the two writes fail in what follows them.
  unfold planPlace at failed ⊢
  cases step : w.ensure.step there with
  | nothing =>
    rw [step] at failed
    cases failed
  | delete object =>
    rw [step] at failed
    cases failed
  | create =>
    obtain ⟨rfl, _⟩ := Ensure.step_eq_create step
    rw [step] at failed
    exact planWrite_eq_error unique (.created answers) failed
  | update object =>
    obtain ⟨rfl, _⟩ := Ensure.step_eq_update step
    rw [step] at failed
    obtain ⟨brought, changed⟩ := Store.change_of_mem (Store.lookup_eq_found answers).1
      (w.mapper.merge mapped object.data) (some (w.seed (.synced time)))
    refine planWrite_eq_error unique ?_ failed
    rw [Store.apply_change changed]
    exact .changed answers changed

-- An import that fails while every call is answered leaves the store as it was, unless the object
-- was written and one of its attributes links to several objects. Then that object, and edges that
-- leave it under attributes declared before, are all that differs.
theorem failed_import_stops_at_relation (w : Workflow) (evaluate : Evaluator) (collection : String)
    (record : Record) (time : Timestamp) {s t : Session} {e : WorkflowError} (calm : s.Calm)
    (unique : s.store.UniqueRelations)
    (failed : w.importRecord evaluate collection record time false s = (.error e, t)) :
    t.store = s.store ∨ ∃ mapped key, Asks w evaluate record mapped key s ∧
      StopsAtRelation w collection mapped key time e s.store t.store := by
  by_cases passed : ∃ mapped key, Asks w evaluate record mapped key s
  · obtain ⟨mapped, key, asks⟩ := passed
    obtain ⟨result, store⟩ := (performs_import asks collection time false).of_calm calm
    rw [failed] at result store
    rcases planSettle_cases w collection mapped key time s.store with
      ⟨there, answers, plan⟩ | ⟨count, plan⟩ <;> rw [plan] at result store
    · right
      refine ⟨mapped, key, asks, ?_⟩
      rw [show t.store = _ from store]
      exact planPlace_eq_error unique answers result.symm
    · exact Or.inl store
  · left
    rcases importRecord_of_not_asks passed with declines | ⟨_, _, stopped⟩
    · cases (importRecord_of_declines declines).symm.trans failed
    · cases stopped.symm.trans failed
      rfl

theorem failed_import_stops_at_superior :
    let s : Session := ⟨⟨[person 1 "bob", person 2 "bob", person 3 "ann"],
      [⟨⟨1⟩, ⟨3⟩, ⟨2⟩, "boss"⟩], 4, 2⟩, .named "ldap", [], .never⟩
    let w := superiors .latest Ensure.latest_ne_merge
    ∃ e t, s.Calm ∧ s.store.UniqueRelations ∧
      w.importRecord (fun _ _ => .ok .null) "people" annUnderBob ⟨1, 0⟩ false s = (.error e, t) ∧
      (t.store = s.store ∨ ∃ mapped key, Asks w (fun _ _ => .ok .null) annUnderBob mapped key s ∧
        StopsAtRelation w "people" mapped key ⟨1, 0⟩ e s.store t.store) := by
  intro s w
  have calm : s.Calm := fun _ _ => rfl
  have unique : s.store.UniqueRelations := ⟨by decide, by decide⟩
  have failed : ∃ e t, w.importRecord (fun _ _ => .ok .null) "people" annUnderBob ⟨1, 0⟩ false s =
      (.error e, t) := by
    rw [importRecord_of_asks (asks_superiors (by decide) rfl)]
    exact ⟨_, _, rfl⟩
  obtain ⟨e, t, failed⟩ := failed
  exact ⟨e, t, calm, unique, failed, failed_import_stops_at_relation w _ _ _ _ calm unique failed⟩

theorem failed_import_writes_object :
    let s : Session := ⟨⟨[person 1 "bob", person 2 "bob", person 3 "ann"], [], 4, 1⟩,
      .named "ldap", [], .never⟩
    ∃ w e t, ofSpec (Pattern.among []) (superiorsSpec .latest) = .ok w ∧ s.Calm ∧
      w.importRecord (fun _ _ => .ok .null) "people" annUnderBob ⟨1, 0⟩ false s = (.error e, t) ∧
      t.store.objects.map CanonicalObject.version = [1, 1, 2] ∧ t.store ≠ s.store := by
  intro s
  refine ⟨superiors .latest Ensure.latest_ne_merge, ?_⟩
  rw [importRecord_of_asks (asks_superiors (by decide) rfl)]
  refine ⟨_, _, ofSpec_superiors _ _ _, fun _ _ => rfl, rfl, rfl, fun same => ?_⟩
  have versions := congrArg (fun store => store.objects.map CanonicalObject.version) same
  revert versions
  decide

end Workflow

end RecordSync
