import RecordSync.Proofs.ImportTwice
import RecordSync.Proofs.ObjectWrites

set_option autoImplicit false

namespace RecordSync

theorem Keyed.insertSorted_again {α : Type} (key : String) (value : α) (xs : Keyed α) :
    insertSorted key value (insertSorted key value xs) = insertSorted key value xs := by
  induction xs with
  | nil => simp [insertSorted]
  | cons x rest ih =>
    obtain ⟨k, old⟩ := x
    by_cases same : k = key
    · simp [insertSorted, same]
    · by_cases before : key < k <;> simp [insertSorted, same, before, ih]

def CanonicalObject.unversioned (o : CanonicalObject) : CanonicalObject := { o with version := 0 }

namespace Store

structure SameRecords (s t : Store) : Prop where
  objects : t.objects.map CanonicalObject.unversioned = s.objects.map CanonicalObject.unversioned
  nextObject : t.nextObject = s.nextObject

structure SameButVersions (s t : Store) : Prop extends SameRecords s t where
  relations : t.relations = s.relations
  nextRelation : t.nextRelation = s.nextRelation

theorem SameButVersions.refl (s : Store) : SameButVersions s s := ⟨⟨rfl, rfl⟩, rfl, rfl⟩

variable {s t : Store} {x : StoreWrite} {xs : List StoreWrite} {id : ObjectId} {data : Record}
  {seed : StatusSeed}

theorem SameButVersions.apply (same : SameButVersions s t) (edge : x.OnEdge) :
    SameButVersions (s.apply false x) (t.apply false x) := by
  obtain ⟨⟨objects, nextObject⟩, relations, nextRelation⟩ := same
  cases x with
  | createObject | changeObject | deleteObject => exact edge.elim
  | createRelation source target name =>
    refine ⟨⟨objects, nextObject⟩, ?_, congrArg (· + 1) nextRelation⟩
    show t.relations ++ [⟨⟨t.nextRelation⟩, source, target, name⟩] =
      s.relations ++ [⟨⟨s.nextRelation⟩, source, target, name⟩]
    rw [relations, nextRelation]
  | updateRelation id target =>
    exact ⟨⟨objects, nextObject⟩, congrArg (List.map (Relation.pointed id target)) relations,
      nextRelation⟩
  | deleteRelation id =>
    exact ⟨⟨objects, nextObject⟩,
      congrArg (List.filter fun r : Relation => r.id ≠ id) relations, nextRelation⟩

theorem SameButVersions.written (same : SameButVersions s t) (edges : ∀ x ∈ xs, x.OnEdge) :
    SameButVersions (s.written false xs) (t.written false xs) := by
  induction xs generalizing s t with
  | nil => exact same
  | cons x xs ih =>
    obtain ⟨first, later⟩ := List.forall_mem_cons.1 edges
    exact ih (same.apply first) later

def Stands (s : Store) (id : ObjectId) (data : Record) (seed : StatusSeed) : Prop :=
  ∀ o ∈ s.objects, o.id = id →
    o.data = data ∧ Keyed.insertSorted seed.endpoint seed.status o.status = o.status

theorem stands_create (unique : s.UniqueObjects) (collection : String) :
    (s.create collection data false (some seed)).2.Stands ⟨s.nextObject⟩ data seed := by
  intro o member same
  rcases List.mem_append.1 member with old | new
  · have below := unique.below o old
    rw [same] at below
    exact absurd below (Nat.lt_irrefl _)
  · cases List.mem_singleton.1 new
    exact ⟨rfl, Keyed.insertSorted_again _ _ _⟩

theorem stands_change (changed : s.change id data false (some seed) = .ok t) :
    t.Stands id data seed := by
  intro o member same
  obtain ⟨_, rfl⟩ := real_change_eq_ok changed
  obtain ⟨old, _, rfl⟩ := List.mem_map.1 member
  by_cases hit : old.id = id
  · rw [if_pos hit]
    exact ⟨rfl, Keyed.insertSorted_again _ _ _⟩
  · rw [if_neg hit] at same
    exact absurd same hit

theorem sameButVersions_change (stands : s.Stands id data seed)
    (changed : s.change id data false (some seed) = .ok t) : SameButVersions s t := by
  have kept : ∀ o ∈ s.objects,
      (if o.id = id then overwritten o data (some seed) else o).unversioned = o.unversioned := by
    intro o member
    by_cases hit : o.id = id
    · obtain ⟨same, status⟩ := stands o member hit
      rw [if_pos hit]
      simp only [overwritten, CanonicalObject.withSeed, CanonicalObject.unversioned, status, ← same]
    · rw [if_neg hit]
  obtain ⟨_, rfl⟩ := real_change_eq_ok changed
  refine ⟨⟨?_, rfl⟩, rfl, rfl⟩
  rw [List.map_map]
  exact List.map_congr_left kept

end Store

namespace Relations

-- What is planned in a later store is what is left of the plan, if the edges are those that part of
-- the plan leaves.
theorem plan_resumed {m : Mapper} {source : ObjectId} {data : Record} {s t : Store}
    {part rest : List StoreWrite} {changes : EdgeChanges} (unique : s.UniqueRelations)
    (ok : (plan m source data s).result = .ok changes)
    (whole : (plan m source data s).writes = part ++ rest) (contents : t.contents = s.contents)
    (relations : t.relations = (s.written false part).relations) :
    (plan m source data t).writes = rest ∧
      ∃ changes, (plan m source data t).result = .ok changes := by
  have targets : t.targetOf = s.targetOf := by
    funext link value
    exact Store.targetOf_congr contents link value
  unfold plan
  rw [targets, relations]
  exact ⟨(planAll_written unique m.nodup_related whole).2,
    (planAll_result_isOk _).2 ((planAll_result_isOk s.relations).1 ⟨changes, ok⟩)⟩

end Relations

namespace Workflow

variable {w : Workflow} {evaluate : Evaluator} {collection : String} {record mapped key : Record}
  {time : Timestamp} {s t : Session} {o : Outcome}

structure Holds (w : Workflow) (mapped key data : Record) : Prop where
  merged : w.mapper.merge mapped data = data
  accepted : (keyFilter key).accepts data = true

def Lasting (w : Workflow) (evaluate : Evaluator) (collection : String) (record : Record)
    (s : Session) : Prop :=
  ∀ mapped key, Asks w evaluate record mapped key s → ∀ there : Option CanonicalObject,
    (s.store.lookup collection (keyFilter key)).Answers there →
      w.Holds mapped key (there.elim mapped fun object => w.mapper.merge mapped object.data)

-- The import, planned anew in a later store, ends well and leaves the records that were wanted, and
-- the edges where they are asked for.
def Resumes (w : Workflow) (collection : String) (mapped key : Record) (time : Timestamp)
    (edges : Prop) (wanted later : Store) : Prop :=
  let plan := w.planSettle collection mapped key time false later
  (∃ o, plan.result = .ok o) ∧ wanted.SameRecords (later.written false plan.writes) ∧
    (edges → wanted.SameButVersions (later.written false plan.writes))

theorem Resumes.of_same {edges : Prop} {wanted later : Store}
    (ok : ∃ o, (w.planSettle collection mapped key time false later).result = .ok o)
    (same : wanted.SameButVersions
      (later.written false (w.planSettle collection mapped key time false later).writes)) :
    w.Resumes collection mapped key time edges wanted later :=
  ⟨ok, same.toSameRecords, fun _ => same⟩

section Written

variable {store : Store} {id : ObjectId} {data : Record} {part rest : List StoreWrite}
  {changes : EdgeChanges} {edges : Prop}

theorem found_again (unique : store.UniqueRelations)
    (only : store.matching collection (keyFilter key) = [⟨id, collection, data⟩])
    (whole : (Relations.plan w.mapper id data store).writes = part ++ rest) :
    ∃ object ∈ (store.written false part).objects, object.id = id ∧ object.data = data ∧
      (store.written false part).lookup collection (keyFilter key) = .found object := by
  have under := Relations.edgesUnder_written unique whole
  have onlyThen : (store.written false part).matching collection (keyFilter key) =
      [⟨id, collection, data⟩] := by
    rw [← only]
    exact congrArg (List.filter _) under.contents
  obtain ⟨object, member, found, content⟩ := Store.exists_found_of_matching onlyThen
  obtain ⟨sameId, _, sameData⟩ := ObjectContent.mk.inj content
  exact ⟨object, member, sameId, sameData, found⟩

theorem resumes_latest (latest : w.ensure = .latest) (unique : store.UniqueRelations)
    (holds : w.Holds mapped key data)
    (only : store.matching collection (keyFilter key) = [⟨id, collection, data⟩])
    (stands : store.Stands id data (w.seed (.synced time)))
    (ok : (Relations.plan w.mapper id data store).result = .ok changes)
    (whole : (Relations.plan w.mapper id data store).writes = part ++ rest) :
    w.Resumes collection mapped key time edges
      (store.written false (Relations.plan w.mapper id data store).writes)
      (store.written false part) := by
  have under := Relations.edgesUnder_written unique whole
  obtain ⟨object, member, rfl, rfl, found⟩ := found_again unique only whole
  have planned : w.planSettle collection mapped key time false (store.written false part) =
      w.planOverwrite object object.data (.synced time) false (store.written false part) := by
    rw [planSettle_of_found found]
    unfold planPlace
    rw [latest]
    dsimp only [Ensure.step]
    rw [holds.merged]
  -- The object is written as it stands, so only versions come between the two plans of its edges.
  obtain ⟨again, changed⟩ := Store.change_of_mem member object.data (some (w.seed (.synced time)))
  have standing : (store.written false part).Stands object.id object.data (w.seed (.synced time)) :=
    fun o listed => stands o (under.objects ▸ listed)
  have raised := Store.sameButVersions_change standing changed
  have contents : again.contents = store.contents := by
    rw [Store.contents_change_of_same changed fun o there same => ?_, under.contents]
    obtain ⟨stored, listed, rfl⟩ := List.mem_map.1 there
    exact (standing stored listed same).1
  obtain ⟨left, _, done⟩ := Relations.plan_resumed unique ok whole contents raised.relations
  unfold planOverwrite at planned
  rw [planWrite_eq (Store.apply_change changed), done, left] at planned
  apply Resumes.of_same <;> rw [planned]
  · exact ⟨_, rfl⟩
  · rw [whole, Store.written_append, Store.written_cons, Store.apply_change changed]
    refine raised.written fun x member => ?_
    rw [← left] at member
    exact Relations.onEdge_planAll _ _ _ _ _ x member

theorem resumes_present (present : w.ensure = .present) (unique : store.UniqueRelations)
    (only : store.matching collection (keyFilter key) = [⟨id, collection, data⟩])
    (whole : (Relations.plan w.mapper id data store).writes = part ++ rest)
    (linkless : edges → w.mapper.related = []) :
    w.Resumes collection mapped key time edges
      (store.written false (Relations.plan w.mapper id data store).writes)
      (store.written false part) := by
  obtain ⟨object, _, _, _, found⟩ := found_again unique only whole
  have planned : w.planSettle collection mapped key time false (store.written false part) =
      .done .unchanged := by
    rw [planSettle_of_found found]
    unfold planPlace
    rw [present]
    rfl
  have some := Relations.edgesUnder_written unique whole
  have all := Relations.edgesUnder_written unique
    (List.append_nil (Relations.plan w.mapper id data store).writes).symm
  unfold Resumes
  rw [planned]
  refine ⟨⟨_, rfl⟩, ⟨?_, some.nextObject.trans all.nextObject.symm⟩, fun asked => ?_⟩
  · exact congrArg _ (some.objects.trans all.objects.symm)
  · have nothing : (Relations.plan w.mapper id data store).writes = [] := by
      unfold Relations.plan
      rw [linkless asked]
      rfl
    rw [nothing] at whole ⊢
    obtain ⟨rfl, _⟩ := List.append_eq_nil_iff.1 whole.symm
    exact .refl store

theorem resumes_written {write : StoreWrite} {outcome : EdgeChanges → Outcome} {before : Store}
    (applied : before.apply false write = store)
    (mode : w.ensure = .latest ∨ w.ensure = .present ∧ (edges → w.mapper.related = []))
    (unique : store.UniqueRelations) (holds : w.Holds mapped key data)
    (only : store.matching collection (keyFilter key) = [⟨id, collection, data⟩])
    (stands : store.Stands id data (w.seed (.synced time)))
    (ok : (w.planWrite write id data false outcome before).result = .ok o)
    (whole : (w.planWrite write id data false outcome before).writes = write :: part ++ rest) :
    w.Resumes collection mapped key time edges
      (before.written false (w.planWrite write id data false outcome before).writes)
      (before.written false (write :: part)) := by
  rw [planWrite_eq applied] at ok whole ⊢
  rw [Store.written_cons, Store.written_cons, applied]
  obtain ⟨changes, ok, _⟩ := Except.map_eq_ok ok
  have whole := (List.cons.inj whole).2
  rcases mode with latest | ⟨present, linkless⟩
  · exact resumes_latest latest unique holds only stands ok whole
  · exact resumes_present present unique only whole linkless

end Written

section Place

variable {store : Store} {part rest : List StoreWrite}

-- Another try looks at the edges: the object has to be the latest, or it was not created by the try
-- that failed, or there are no edges to look at.
def LooksAtEdges (w : Workflow) (store later : Store) : Prop :=
  w.ensure = .present → later.objects = store.objects ∨ w.mapper.related = []

theorem contents_removed (unique : store.UniqueRelations) (id : ObjectId) :
    (store.written false (planRemove id store).writes).contents =
      store.contents.filter fun c => c.id ≠ id := by
  have kept := (Relations.clearing_written unique
    (List.append_nil (Relations.clearing (store.relationsFrom id))).symm).1
  have removed : store.written false (planRemove id store).writes =
      (store.written false (Relations.clearing (store.relationsFrom id))).delete id false :=
    Store.written_append _ _
  rw [removed, Store.contents_delete, Store.contents, kept]
  rfl

theorem resumes_remove {object : CanonicalObject} {edges : Prop} (absent : w.ensure = .absent)
    (unique : store.UniqueRelations)
    (found : store.lookup collection (keyFilter key) = .found object)
    (whole : (planRemove object.id store).writes = part ++ rest) :
    w.Resumes collection mapped key time edges
      (store.written false (planRemove object.id store).writes) (store.written false part) := by
  obtain ⟨_, named, accepted, only⟩ := Store.lookup_eq_found found
  rcases List.prefix_concat_iff.1 ⟨rest, whole.symm⟩ with all | ⟨left, cleared⟩
  · -- The object itself was deleted, and the search for it comes to nothing.
    rw [show part = (planRemove object.id store).writes from all]
    have gone : (store.written false (planRemove object.id store).writes).lookup collection
        (keyFilter key) = .notFound :=
      Store.lookup_eq_notFound_iff.2 (matching_of_filtered (contents_removed unique _) only)
    have planned : w.planSettle collection mapped key time false
        (store.written false (planRemove object.id store).writes) = .done .unchanged := by
      rw [planSettle_of_notFound gone]
      unfold planPlace
      rw [absent]
      rfl
    apply Resumes.of_same <;> rw [planned]
    · exact ⟨_, rfl⟩
    · exact .refl _
  · obtain ⟨objects, _, remaining⟩ := Relations.clearing_written unique cleared.symm
    have again : (store.written false part).lookup collection (keyFilter key) = .found object := by
      rw [← found]
      unfold Store.lookup Store.inCollection
      rw [objects]
    have planned : w.planSettle collection mapped key time false (store.written false part) =
        ⟨left ++ [.deleteObject object.id], .ok .deleted⟩ := by
      rw [planSettle_of_found again]
      unfold planPlace planRemove
      rw [absent, ← remaining]
      rfl
    apply Resumes.of_same <;> rw [planned]
    · exact ⟨_, rfl⟩
    · unfold planRemove
      rw [← cleared, List.append_assoc, Store.written_append]
      exact .refl _

theorem resumes_place {there : Option CanonicalObject} (unique : store.UniqueObjects)
    (relations : store.UniqueRelations)
    (answers : (store.lookup collection (keyFilter key)).Answers there)
    (holds : w.Holds mapped key
      (there.elim mapped fun object => w.mapper.merge mapped object.data))
    (ok : (w.planPlace collection mapped time false there store).result = .ok o)
    (whole : (w.planPlace collection mapped time false there store).writes = part ++ rest) :
    w.Resumes collection mapped key time (w.LooksAtEdges store (store.written false part))
      (store.written false (w.planPlace collection mapped time false there store).writes)
      (store.written false part) := by
  cases part with
  | nil =>
    -- Nothing was written, so the import is planned as before.
    apply Resumes.of_same <;> rw [Store.written_nil, planSettle_of_answers answers]
    · exact ⟨o, ok⟩
    · exact .refl _
  | cons x part =>
    unfold planPlace at ok whole ⊢
    cases step : w.ensure.step there with
    | nothing =>
      rw [step] at whole
      cases whole
    | delete object =>
      obtain ⟨rfl, absent⟩ := Ensure.step_eq_delete step
      rw [step] at whole
      exact resumes_remove absent relations answers whole
    | update object =>
      obtain ⟨rfl, latest⟩ := Ensure.step_eq_update step
      rw [step] at ok whole
      obtain ⟨member, named, _, only⟩ := Store.lookup_eq_found answers
      obtain ⟨after, changed⟩ := Store.change_of_mem member (w.mapper.merge mapped object.data)
        (some (w.seed (.synced time)))
      cases (List.cons.inj whole).1
      have onlyAfter :=
        matching_of_written unique (Store.contents_change changed) only holds.accepted
      rw [show object.content.collection = collection from named] at onlyAfter
      exact resumes_written (Store.apply_change changed) (Or.inl latest) (relations.change changed)
        holds onlyAfter (Store.stands_change changed) ok whole
    | create =>
      obtain ⟨rfl, stays⟩ := Ensure.step_eq_create step
      rw [step] at ok whole
      cases (List.cons.inj whole).1
      -- The search came to nothing, so it will find the new object and no other.
      let made := (store.create collection mapped false (some (w.seed (.synced time)))).2
      have contents : made.contents =
          store.contents ++ [⟨⟨store.nextObject⟩, collection, mapped⟩] := Store.contents_create
      have only := matching_of_appended contents (Store.lookup_eq_notFound_iff.1 answers)
        (by simpa [ObjectContent.answers] using holds.accepted)
      refine resumes_written (show store.apply false _ = made from rfl) ?_
        ⟨relations.ids, relations.below⟩ holds only (Store.stands_create unique collection) ok whole
      cases ensure : w.ensure with
      | latest => exact Or.inl rfl
      | present =>
        refine Or.inr ⟨rfl, fun looks => (looks ensure).resolve_left fun same => ?_⟩
        have kept : made.UniqueRelations := ⟨relations.ids, relations.below⟩
        have under := Relations.edgesUnder_written kept (List.cons.inj whole).2
        have grown : (store.objects ++ [_]).length = store.objects.length :=
          congrArg List.length (under.objects.symm.trans same)
        simp at grown
      | absent | merge =>
        rw [ensure] at step
        cases step

end Place

theorem lasting_of_plain {compile : Pattern.Compiler} {spec : WorkflowSpec}
    (accepted : ofSpec compile spec = .ok w)
    (plain : w.mapper.Plain) (specKeyed : Record.WellKeyed spec.attributes)
    (evaluateKeyed : evaluate.WellKeyed) (recordKeyed : Record.WellKeyed record)
    (wellFormed : s.store.WellFormed) : w.Lasting evaluate collection record s := by
  intro mapped key asks there answers
  have sound := sound_ofSpec accepted
  have mappedKeyed := Mapper.wellKeyed_map evaluateKeyed (wellKeyed_ofSpec specKeyed accepted)
    recordKeyed asks.mapping
  have image := Mapper.image_map asks.mapping
  have drawn := drawn_identity asks.key
  have accepts (r : Record) : (keyFilter key).accepts r = true ↔ Matches mapped w.identifiers r :=
    accepts_of_drawn (drawn_collect drawn) (plain_identifiers plain sound)
  cases there with
  | none =>
    exact ⟨Mapper.merge_self plain sound image mappedKeyed,
      (accepts mapped).2 (.self mappedKeyed drawn.held)⟩
  | some object =>
    obtain ⟨member, _, found, _⟩ := Store.lookup_eq_found answers
    have distinct := (wellFormed.data object member).distinct
    exact ⟨Mapper.merge_merge plain sound image mappedKeyed distinct,
      (accepts _).2 (((accepts _).1 found).merge plain sound image mappedKeyed distinct)⟩

-- A failed import can be tried again. If an import ends well without failures, then after a run of
-- it that a failed call stopped anywhere, a second run ends well and comes to the same objects,
-- data and statuses; and to the same edges too, unless the object only has to exist and was created
-- by the run that failed.
theorem failed_import_retried {spec : WorkflowSpec} {w : Workflow} {evaluate : Evaluator}
    {collection : String} {record : Record} {time : Timestamp} {s t u : Session} {o : Outcome}
    {compile : Pattern.Compiler} {e : WorkflowError} {faults : Faults}
    (accepted : ofSpec compile spec = .ok w)
    (specKeyed : Record.WellKeyed spec.attributes) (evaluateKeyed : evaluate.WellKeyed)
    (recordKeyed : Record.WellKeyed record) (wellFormed : s.store.WellFormed) (calm : s.Calm)
    (lasting : w.mapper.Plain ∨ w.Lasting evaluate collection record s)
    (once : w.importRecord evaluate collection record time false s = (.ok o, u))
    (failed : w.importRecord evaluate collection record time false { s with faults } =
      (.error e, t)) :
    ∃ o' v, w.importRecord evaluate collection record time false { t with faults := s.faults } =
        (.ok o', v) ∧
      u.store.SameRecords v.store ∧
      (w.LooksAtEdges s.store t.store → u.store.SameButVersions v.store) := by
  have lasting : w.Lasting evaluate collection record s :=
    lasting.elim (fun plain => lasting_of_plain accepted plain specKeyed evaluateKeyed recordKeyed
      wellFormed) id
  by_cases passed : ∃ mapped key, Asks w evaluate record mapped key s
  · -- Three runs of one plan: all of it, some part of it, and what is planned after that part.
    obtain ⟨mapped, key, asks⟩ := passed
    obtain ⟨result, stored⟩ := (performs_import asks collection time false).of_calm calm
    rw [once] at result stored
    have asksFirst : Asks w evaluate record mapped key { s with faults } := { asks with }
    have stopped := performs_import asksFirst collection time false
    obtain ⟨part, ⟨rest, whole⟩, left⟩ := stopped.exists_prefix
    have beside := stopped.beside
    rw [failed] at left beside
    have asksAgain : Asks w evaluate record mapped key { t with faults := s.faults } :=
      { asks with bound := (congrArg Endpoint.name beside.endpoint).trans asks.bound }
    obtain ⟨again, final⟩ := (performs_import asksAgain collection time false).of_calm calm
    rcases planSettle_cases w collection mapped key time s.store with
      ⟨there, answers, planned⟩ | ⟨count, planned⟩
    · rw [planned] at result stored whole
      have stored : u.store = _ := stored
      have left : t.store = s.store.written false part := left
      have resumes := resumes_place wellFormed.objects wellFormed.relations answers
        (lasting mapped key asks there answers) result.symm whole.symm
      rw [← left, ← stored] at resumes
      obtain ⟨⟨o', ok⟩, records, edges⟩ := resumes
      rw [← show _ = t.store.written false _ from final] at records edges
      exact ⟨o', _, Prod.ext (again.trans ok) rfl, records, edges⟩
    · rw [planned] at result
      cases result
  · -- An import that never asks the store makes no call that could fail.
    rcases importRecord_of_not_asks passed with declines | ⟨_, _, stopped⟩
    · have declined : Declines w evaluate record { s with faults } :=
        ⟨declines.bound, declines.refused⟩
      cases (importRecord_of_declines declined).symm.trans failed
    · cases stopped.symm.trans once

theorem failed_import_retried_for_superior :
    let w := superiors .latest Ensure.latest_ne_merge
    let evaluate : Evaluator := fun _ _ => .ok .null
    let s : Session := ⟨⟨[person 1 "bob", person 2 "ann"], [], 3, 1⟩, .named "ldap", [], .never⟩
    let faults : Faults := ⟨fun n _ => if n = 4 then some (.unavailable "down") else none,
      fun _ _ => none⟩
    ∃ u t o v, ofSpec (Pattern.among []) (superiorsSpec .latest) = .ok w ∧ w.mapper.Plain ∧
      s.store.WellFormed ∧
      w.importRecord evaluate "people" annUnderBob ⟨1, 0⟩ false s = (.ok .updated, u) ∧
      w.importRecord evaluate "people" annUnderBob ⟨1, 0⟩ false { s with faults } =
        (.error (.store (.unavailable "down")), t) ∧
      w.importRecord evaluate "people" annUnderBob ⟨1, 0⟩ false { t with faults := s.faults } =
        (.ok o, v) ∧
      u.store.SameRecords v.store ∧
      (w.LooksAtEdges s.store t.store → u.store.SameButVersions v.store) := by
  intro w evaluate s faults
  have accepted : ofSpec (Pattern.among []) (superiorsSpec .latest) = .ok w := ofSpec_superiors _ _ _
  have plain : w.mapper.Plain := by
    unfold Mapper.Plain
    decide
  have wellFormed : s.store.WellFormed := by
    refine ⟨⟨by decide, by decide⟩, ⟨List.nodup_nil, List.forall_mem_nil _⟩, ?_⟩
    simp [s, person, Record.wellKeyed_iff, Keyed.distinct_cons]
  have once : ∃ u, w.importRecord evaluate "people" annUnderBob ⟨1, 0⟩ false s =
      (.ok .updated, u) := by
    rw [importRecord_of_asks (asks_superiors (by decide) rfl)]
    exact ⟨_, rfl⟩
  have failed : ∃ t, w.importRecord evaluate "people" annUnderBob ⟨1, 0⟩ false { s with faults } =
      (.error (.store (.unavailable "down")), t) := by
    rw [importRecord_of_asks (asks_superiors (by decide) rfl)]
    exact ⟨_, rfl⟩
  obtain ⟨u, once⟩ := once
  obtain ⟨t, failed⟩ := failed
  have specKeyed : Record.WellKeyed (superiorsSpec .latest).attributes := by
    simp [superiorsSpec, Record.WellKeyed, Value.WellKeyed, Value.WellKeyedFields,
      Keyed.distinct_cons]
  have recordKeyed : Record.WellKeyed annUnderBob := by
    simp [annUnderBob, Record.wellKeyed_iff, Keyed.distinct_cons]
  have evaluateKeyed : evaluate.WellKeyed := by
    rintro code context v _ ⟨⟩
    exact Value.wellKeyed_null
  obtain ⟨o, v, again, records, edges⟩ := failed_import_retried accepted specKeyed evaluateKeyed
    recordKeyed wellFormed (fun _ _ => rfl) (Or.inl plain) once failed
  exact ⟨u, t, o, v, accepted, plain, wellFormed, once, failed, again, records, edges⟩

def nicklessSpec : WorkflowSpec :=
  ⟨"people", "people", "ldap", .latest, none, ["login"],
    [("login", .object [("from", .string "uid")]),
      ("name.nick", .object [("ensure", .string "ABSENT")])]⟩

def nickless : Workflow where
  name := "people"
  collection := "people"
  endpoint := "ldap"
  ensure := .latest
  condition := none
  identifiers := ["login"]
  mapper := ⟨[⟨"login", [.path "uid"], .string, .latest, true, [], none, none, none⟩,
    ⟨"name.nick", [], .string, .absent, true, [], none, none, none⟩],
    by decide⟩
  ensure_ne_merge := Ensure.latest_ne_merge
  resolvable := by simp [Mapper.Resolvable, Mapper.find?]

theorem ofSpec_nickless (compile : Pattern.Compiler) :
    ofSpec compile nicklessSpec = .ok nickless := by
  unfold nicklessSpec nickless
  rfl

-- Two failures that the retry does not make up for: an object that only has to exist is left
-- without its edge, and a name with a dot is removed once as it stands and once along its path.
theorem retried_import_differs :
    let run (w : Workflow) (record : Record) (s : Session) :=
      w.importRecord (fun _ _ => .ok .null) "people" record ⟨1, 0⟩ false s
    let failing (k : Nat) (s : Session) : Session :=
      { s with faults := ⟨fun n _ => if n = k then some (.unavailable "down") else none,
        fun _ _ => none⟩ }
    let retry (w : Workflow) (record : Record) (k : Nat) (s : Session) :=
      run w record { (run w record (failing k s)).2 with faults := .never }
    let bob : Session := ⟨⟨[person 1 "bob"], [], 2, 1⟩, .named "ldap", [], .never⟩
    let ann : CanonicalObject := ⟨⟨1⟩, "people", 1, [("login", .string "ann"),
      ("name.nick", .string "al"), ("name", .object [("nick", .string "countess")])], []⟩
    let countess : Session := ⟨⟨[ann], [], 2, 1⟩, .named "ldap", [], .never⟩
    let record : Record := [("uid", .string "ann")]
    (∃ w, ofSpec (Pattern.among []) (superiorsSpec .present) = .ok w ∧
      (run w annUnderBob bob).1.mapError WorkflowError.isRetryable = .ok .created ∧
      (run w annUnderBob (failing 4 bob)).1.mapError WorkflowError.isRetryable = .error true ∧
      (run w annUnderBob bob).2.store.relations = [⟨⟨1⟩, ⟨2⟩, ⟨1⟩, "boss"⟩] ∧
      (retry w annUnderBob 4 bob).2.store.relations = []) ∧
    ∃ w, ofSpec (Pattern.among []) nicklessSpec = .ok w ∧
      (run w record countess).1.mapError WorkflowError.isRetryable = .ok .updated ∧
      (run w record (failing 2 countess)).1.mapError WorkflowError.isRetryable = .error true ∧
      (run w record countess).2.store.objects.map CanonicalObject.data =
        [[("login", .string "ann"), ("name", .object [("nick", .string "countess")])]] ∧
      (retry w record 2 countess).2.store.objects.map CanonicalObject.data =
        [[("login", .string "ann"), ("name", .object [])]] := by
  refine ⟨⟨superiors .present (by decide), ofSpec_superiors _ _ _, ?_⟩,
    nickless, ofSpec_nickless _, ?_⟩ <;> decide +kernel

end Workflow

end RecordSync
