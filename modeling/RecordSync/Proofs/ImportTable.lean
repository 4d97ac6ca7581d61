import RecordSync.Proofs.ImportPlans

set_option autoImplicit false

namespace RecordSync

theorem Lookup.answers_ofMatches {α : Type} {xs : List α} {there : Option α} :
    (Lookup.ofMatches xs).Answers there ↔ xs = there.toList := by
  cases there with
  | none => exact Lookup.ofMatches_eq_notFound_iff xs
  | some a => exact Lookup.ofMatches_eq_found_iff xs a

namespace Store

variable {s : Store}

theorem withoutEdges_relationsFrom (unique : s.UniqueRelations) (source : ObjectId) :
    s.withoutEdges ((s.relationsFrom source).map Relation.id) =
      { s with relations := s.relations.filter fun r => r.source ≠ source } := by
  unfold withoutEdges
  congr 1
  apply List.filter_congr
  intro r member
  have leaves : r.id ∈ (s.relationsFrom source).map Relation.id ↔ r.source = source := by
    constructor
    · intro listed
      obtain ⟨other, there, same⟩ := List.mem_map.1 listed
      obtain ⟨stored, leaves⟩ := List.mem_filter.1 there
      rw [← unique.eq_of_id_eq stored member same]
      exact of_decide_eq_true leaves
    · exact fun leaves => List.mem_map_of_mem (List.mem_filter.2 ⟨member, decide_eq_true leaves⟩)
  simp [leaves]

end Store

theorem Relations.written_clearing (edges : List Relation) (s : Store) :
    s.written false (clearing edges) = s.withoutEdges (edges.map Relation.id) := by
  induction edges generalizing s with
  | nil => exact s.withoutEdges_nil.symm
  | cons edge rest ih => exact (ih _).trans (s.withoutEdges_cons edge.id _).symm

namespace Workflow

variable {w : Workflow} {evaluate : Evaluator} {collection : String} {record mapped key : Record}
  {time : Timestamp} {s t : Session} {o : Outcome}

theorem admits_eq_false_iff :
    w.admits evaluate record = false ↔ ∃ code, w.condition = some code ∧
      (evaluate.condition code record = .ok false ∨
        ∃ e, evaluate.condition code record = .error e) := by
  unfold admits
  cases w.condition with
  | none => simp
  | some code =>
    cases ended : evaluate.condition code record with
    | ok passed => simp [ended]
    | error e => simp [ended]

def linkNames (w : Workflow) : List String := w.mapper.related.map AttributeDefinition.name

def counterparts (s : Store) (collection : String) (key : Record) : List CanonicalObject :=
  (s.inCollection collection).filter fun o => (keyFilter key).accepts o.data

-- The rows of the resolution table: what an import that found a counterpart, or none, has made of
-- the store.
inductive Imports (w : Workflow) (collection : String) (mapped : Record) (time : Timestamp)
    (s : Store) : Option CanonicalObject → Outcome → Store → Prop
  | created {t : Store} (wanted : w.ensure = .present ∨ w.ensure = .latest)
    (edges : Store.EdgesUnder ⟨s.nextObject⟩ w.linkNames { s with
      objects := s.objects ++
        [⟨⟨s.nextObject⟩, collection, 1, mapped, [(w.endpoint, .synced time)]⟩]
      nextObject := s.nextObject + 1 } t) : Imports w collection mapped time s none .created t
  | missing (unwanted : w.ensure = .absent) : Imports w collection mapped time s none .unchanged s
  | present {x : CanonicalObject} (enough : w.ensure = .present) :
    Imports w collection mapped time s (some x) .unchanged s
  | deleted {x : CanonicalObject} (unwanted : w.ensure = .absent) :
    Imports w collection mapped time s (some x) .deleted { s with
      objects := s.objects.filter fun o => o.id ≠ x.id
      relations := s.relations.filter fun r => r.source ≠ x.id }
  | overwritten {x : CanonicalObject} {o : Outcome} {u t : Store} (latest : w.ensure = .latest)
    (ended : o = .updated ∨ o = .unchanged)
    (rewrites : s.Rewrites x (w.mapper.merge mapped x.data) (w.seed (.synced time)) u)
    (edges : u.EdgesUnder x.id w.linkNames t) : Imports w collection mapped time s (some x) o t

theorem edgesUnder_planWrite {write : StoreWrite} {id : ObjectId} {data : Record}
    {outcome : EdgeChanges → Outcome} {store : Store}
    (unique : (store.apply false write).UniqueRelations) :
    (store.apply false write).EdgesUnder id w.linkNames
      (store.written false (w.planWrite write id data false outcome store).writes) :=
  Relations.edgesUnder_written unique (List.append_nil _).symm

theorem written_planRemove {store : Store} (unique : store.UniqueRelations) (id : ObjectId) :
    store.written false (planRemove id store).writes = { store with
      objects := store.objects.filter fun o => o.id ≠ id
      relations := store.relations.filter fun r => r.source ≠ id } := by
  unfold planRemove
  rw [Store.written_append, Relations.written_clearing, Store.withoutEdges_relationsFrom unique]
  rfl

theorem imports_planPlace {store : Store} {there : Option CanonicalObject}
    (objects : store.UniqueObjects) (relations : store.UniqueRelations)
    (answers : (store.lookup collection (keyFilter key)).Answers there)
    (ok : (w.planPlace collection mapped time false there store).result = .ok o) :
    Imports w collection mapped time store there o
      (store.written false (w.planPlace collection mapped time false there store).writes) := by
  have objectsOnly := w.ensure_ne_merge
  unfold planPlace at ok ⊢
  cases there with
  | none =>
    cases ensure : w.ensure with
    | merge => exact absurd ensure objectsOnly
    | absent =>
      rw [ensure] at ok
      cases ok
      exact .missing ensure
    | present | latest =>
      rw [ensure] at ok
      obtain ⟨_, _, rfl⟩ := Except.map_eq_ok ok
      have kept : (store.apply false (w.creation collection mapped time)).UniqueRelations :=
        ⟨relations.ids, relations.below⟩
      exact .created (by simp [ensure]) (edgesUnder_planWrite kept)
  | some x =>
    cases ensure : w.ensure with
    | merge => exact absurd ensure objectsOnly
    | present =>
      rw [ensure] at ok
      cases ok
      exact .present ensure
    | absent =>
      rw [ensure] at ok
      cases ok
      show Imports _ _ _ _ _ _ _ (store.written false (planRemove x.id store).writes)
      rw [written_planRemove relations]
      exact .deleted ensure
    | latest =>
      rw [ensure] at ok
      obtain ⟨stored, _⟩ := Store.lookup_eq_found answers
      obtain ⟨u, changed⟩ := Store.change_of_mem stored (w.mapper.merge mapped x.data)
        (some (w.seed (.synced time)))
      obtain ⟨changes, _, rfl⟩ := Except.map_eq_ok ok
      -- The edges are planned by the store in which the object has been rewritten.
      refine .overwritten ensure ?_ (objects.rewrites stored changed) ?_
      · unfold written
        split <;> simp
      · rw [← Store.apply_change changed]
        exact edgesUnder_planWrite ((Store.apply_change changed).symm ▸ relations.change changed)

theorem Imports.ne_skipped {s t : Store} {there : Option CanonicalObject}
    (imports : Imports w collection mapped time s there o t) : o ≠ .skipped := by
  cases imports with
  | overwritten _ ended => rcases ended with rfl | rfl <;> decide
  | _ => decide

-- An import that ends well is skipped just when its condition turns the record away, and then
-- nothing happened. Any other found one counterpart at most, and did what the table says for it.
theorem import_follows_table (w : Workflow) (evaluate : Evaluator) (collection : String)
    (record : Record) (time : Timestamp) {s t : Session} {o : Outcome}
    (objects : s.store.UniqueObjects) (relations : s.store.UniqueRelations)
    (run : w.importRecord evaluate collection record time false s = (.ok o, t)) :
    (o = .skipped ↔ ∃ code, w.condition = some code ∧
      (evaluate.condition code record = .ok false ∨
        ∃ e, evaluate.condition code record = .error e)) ∧
    (o = .skipped → t = s) ∧
    (o ≠ .skipped → ∃ mapped key there, w.mapper.map evaluate record = .ok mapped ∧
      identity mapped w.identifiers = .ok key ∧
      counterparts s.store collection key = there.toList ∧
      Imports w collection mapped time s.store there o t.store) := by
  rw [← admits_eq_false_iff]
  by_cases passed : ∃ mapped key, Asks w evaluate record mapped key s
  · obtain ⟨mapped, key, asks⟩ := passed
    obtain ⟨result, store⟩ := (performs_import asks collection time false).of_ok run
    rcases planSettle_cases w collection mapped key time s.store with
      ⟨there, answers, plan⟩ | ⟨count, plan⟩ <;> rw [plan] at result store
    · have imports := imports_planPlace objects relations answers result
      rw [← store] at imports
      have other := imports.ne_skipped
      exact ⟨by simp [other, asks.admitted], fun skipped => absurd skipped other,
        fun _ => ⟨mapped, key, there, asks.mapping, asks.key, Lookup.answers_ofMatches.1 answers,
          imports⟩⟩
    · cases result
  · rcases importRecord_of_not_asks passed with declines | ⟨e, _, failed⟩
    · cases run.symm.trans (importRecord_of_declines declines)
      exact ⟨by simp [declines.refused], fun _ => rfl, fun other => absurd rfl other⟩
    · cases run.symm.trans failed

theorem import_follows_table_for_known_person :
    let s : Session := ⟨⟨[person 1 "bob", person 2 "ann"], [], 3, 1⟩, .named "ldap", [], .never⟩
    let evaluate : Evaluator := fun _ _ => .ok .null
    ∃ w t, ofSpec (Pattern.among []) (superiorsSpec .latest) = .ok w ∧ s.store.UniqueObjects ∧
      s.store.UniqueRelations ∧
      w.importRecord evaluate "people" annUnderBob ⟨1, 0⟩ false s = (.ok .updated, t) ∧
      ∃ mapped key there, w.mapper.map evaluate annUnderBob = .ok mapped ∧
        identity mapped w.identifiers = .ok key ∧
        counterparts s.store "people" key = there.toList ∧
        Imports w "people" mapped ⟨1, 0⟩ s.store there .updated t.store := by
  intro s evaluate
  have objects : s.store.UniqueObjects := ⟨by decide, by decide⟩
  have relations : s.store.UniqueRelations := ⟨List.nodup_nil, List.forall_mem_nil _⟩
  have run : ∃ t, (superiors .latest Ensure.latest_ne_merge).importRecord evaluate "people"
      annUnderBob ⟨1, 0⟩ false s = (.ok .updated, t) := by
    rw [importRecord_of_asks (asks_superiors Ensure.latest_ne_merge rfl)]
    exact ⟨_, rfl⟩
  obtain ⟨t, run⟩ := run
  exact ⟨_, t, ofSpec_superiors _ _ _, objects, relations, run,
    (import_follows_table _ evaluate "people" annUnderBob _ objects relations run).2.2 (by decide)⟩

end Workflow

end RecordSync
