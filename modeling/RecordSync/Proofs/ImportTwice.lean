import RecordSync.Proofs.Edges
import RecordSync.Proofs.Imports
import RecordSync.Proofs.Matching

set_option autoImplicit false

namespace RecordSync

namespace Workflow

variable {w : Workflow} {evaluate : Evaluator} {collection : String} {record mapped key : Record}
  {time : Timestamp} {s t : Session} {o : Outcome}

-- A store in which an import that finds `there` has nothing left to write.
inductive Rests (w : Workflow) (mapped : Record) (s : Store) : Option CanonicalObject → Prop
  | idle {there : Option CanonicalObject} (nothing : w.ensure.step there = .nothing) :
    Rests w mapped s there
  | same {object : CanonicalObject} (update : w.ensure.step (some object) = .update object)
    (member : object ∈ s.objects) (keyed : Record.WellKeyed object.data)
    (merged : w.mapper.merge mapped object.data = object.data)
    (settled : Relations.AllSettled s object.id object.data w.mapper.related) :
    Rests w mapped s (some object)

structure SameContents (s t : Session) : Prop extends s.OnlyStore t where
  contents : t.store.contents = s.store.contents
  relations : t.store.relations = s.store.relations

theorem SameContents.refl (s : Session) : SameContents s s := ⟨⟨rfl, rfl⟩, rfl, rfl⟩

theorem agrees_self {r : Record} (keyed : Record.WellKeyed r) : Record.agrees r r = true :=
  Value.agrees_self keyed

theorem overwrite_same {object : CanonicalObject} {status : SyncStatus}
    (unique : s.store.UniqueObjects) (calm : s.Calm) (member : object ∈ s.store.objects)
    (keyed : Record.WellKeyed object.data)
    (settled : Relations.AllSettled s.store object.id object.data w.mapper.related) :
    ∃ t, w.overwrite object object.data status false s = (.ok .unchanged, t) ∧
      SameContents s t := by
  obtain ⟨store, changed⟩ := Store.change_of_mem member object.data (some (w.seed status))
  have contents : store.contents = s.store.contents := by
    refine Store.contents_change_of_same changed fun o there same => ?_
    have listed : object.content ∈ s.store.contents := List.mem_map_of_mem member
    rw [unique.content_eq there listed same]
    rfl
  have relations := Store.relations_change changed
  have run := Sync.changeObject_of_calm calm changed
  -- The session after the write is named, since the reconciliation goes on from it.
  generalize reached : ({ s.logged (.store (.change object.id object.data false
    (some (w.seed status)))) with store := store } : Session) = u at run
  have stored : u.store = store := by
    rw [← reached]
  have beside : s.OnlyStore u := by
    rw [← reached]
    exact ⟨rfl, rfl⟩
  have settledThere : Relations.AllSettled u.store object.id object.data w.mapper.related := by
    rw [stored]
    exact settled.congr contents relations
  obtain ⟨edges, t, reconciled, empty, unmoved⟩ :=
    Relations.idle_reconcile (beside.calm calm) settledThere
  refine ⟨t, ?_, ⟨beside.trans ⟨unmoved.endpoint, unmoved.faults⟩, ?_, ?_⟩⟩
  · unfold overwrite
    rw [Sync.bind_of_ok run, Sync.bind_of_ok reconciled, agrees_self keyed]
    unfold written
    rw [empty]
    rfl
  · rw [unmoved.store, stored, contents]
  · rw [unmoved.store, stored, relations]

theorem place_of_rests (collection : String) (time : Timestamp) {there : Option CanonicalObject}
    (unique : s.store.UniqueObjects)
    (calm : s.Calm) (rests : Rests w mapped s.store there) :
    ∃ t, w.place collection mapped time false there s = (.ok .unchanged, t) ∧
      SameContents s t := by
  cases rests with
  | idle nothing =>
    unfold place
    rw [nothing]
    exact ⟨s, rfl, .refl s⟩
  | same update member keyed merged settled =>
    unfold place
    rw [update]
    dsimp only
    rw [merged]
    exact overwrite_same unique calm member keyed settled

section Matching

variable {store after : Store} {filter : Filter} {o : ObjectContent}

theorem matching_of_appended (contents : after.contents = store.contents ++ [o])
    (none : store.matching collection filter = []) (answers : o.answers collection filter = true) :
    after.matching collection filter = [o] := by
  unfold Store.matching at none ⊢
  rw [contents, List.filter_append, none]
  simp [answers]

theorem matching_of_written {data : Record} (unique : store.UniqueObjects)
    (contents : after.contents = store.contents.map fun c => c.written o.id data)
    (only : store.matching collection filter = [o]) (accepted : filter.accepts data = true) :
    after.matching collection filter = [{ o with data := data }] := by
  have listed : o ∈ store.matching collection filter := by
    rw [only]
    exact List.mem_singleton_self o
  obtain ⟨member, answers⟩ := List.mem_filter.1 listed
  have alike : ∀ c ∈ store.contents,
      (c.written o.id data).answers collection filter = c.answers collection filter := by
    intro c there
    by_cases same : c.id = o.id
    · cases unique.content_eq there member same
      rw [answers]
      simp only [ObjectContent.answers, Bool.and_eq_true] at answers
      simp only [ObjectContent.answers, ObjectContent.written, if_true, Bool.and_eq_true]
      exact ⟨answers.1, accepted⟩
    · simp [ObjectContent.written, same]
  have kept : store.contents.filter ((fun c => c.answers collection filter) ∘
      fun c => c.written o.id data) = [o] := (List.filter_congr alike).trans only
  unfold Store.matching
  rw [contents, List.filter_map, kept]
  simp [ObjectContent.written]

theorem matching_of_filtered
    (contents : after.contents = store.contents.filter fun c => c.id ≠ o.id)
    (only : store.matching collection filter = [o]) : after.matching collection filter = [] := by
  unfold Store.matching at only ⊢
  rw [contents, List.filter_filter, List.filter_congr fun _ _ => Bool.and_comm _ _,
    ← List.filter_filter, only]
  simp

theorem rests_of_matching (only : store.matching collection filter = [o])
    (stays : w.ensure ≠ .absent) (keyed : Record.WellKeyed o.data)
    (merged : w.mapper.merge mapped o.data = o.data)
    (settled : Relations.AllSettled store o.id o.data w.mapper.related) :
    ∃ there, Lookup.Answers (store.lookup collection filter) there ∧
      Rests w mapped store there := by
  obtain ⟨object, member, found, rfl⟩ := Store.exists_found_of_matching only
  refine ⟨some object, found, ?_⟩
  cases ensure : w.ensure with
  | present => exact .idle (by rw [ensure]; rfl)
  | merge => exact .idle (by rw [ensure]; rfl)
  | latest => exact .same (by rw [ensure]; rfl) member keyed merged settled
  | absent => exact absurd ensure stays

end Matching

structure Finished (w : Workflow) (collection : String) (mapped key : Record) (s t : Session) :
    Prop where
  beside : s.OnlyStore t
  unique : t.store.UniqueObjects
  rests : ∃ there, Lookup.Answers (t.store.lookup collection (keyFilter key)) there ∧
    Rests w mapped t.store there

section Place

variable (plain : w.mapper.Plain) (sound : w.mapper.Sound) (image : w.mapper.Image mapped)
  (keyed : Record.WellKeyed mapped)
  (accepts : ∀ r, (keyFilter key).accepts r = true ↔ Matches mapped w.identifiers r)
  (wellFormed : s.store.WellFormed)

include plain sound image keyed accepts wellFormed

theorem finished_create {status : StatusSeed} {id : ObjectId} {edges : EdgeChanges} {u : Session}
    (stays : w.ensure ≠ .absent)
    (held : ∀ name ∈ w.identifiers, ∃ v, Keyed.get? name mapped = some v)
    (none : s.store.lookup collection (keyFilter key) = .notFound)
    (created : Sync.createObject collection mapped false status s = (.ok id, u))
    (reconciled : Relations.reconcile w.mapper id mapped false u = (.ok edges, t)) :
    Finished w collection mapped key s t := by
  obtain ⟨rfl, stored, beside⟩ := Sync.createObject_eq_ok created
  have uniqueObjects : u.store.UniqueObjects := stored ▸ wellFormed.objects.create _ _ _ _
  have uniqueRelations : u.store.UniqueRelations := by
    rw [stored]
    exact ⟨wellFormed.relations.ids, wellFormed.relations.below⟩
  obtain ⟨kept, _, settled⟩ := Relations.reconcile_eq_ok uniqueRelations reconciled
  have same := (Relations.onEdges_reconcile _ _ _ _).sameObjects reconciled
  refine ⟨beside.trans same.toOnlyStore, same.unique uniqueObjects, ?_⟩
  have contents : t.store.contents =
      s.store.contents ++ [⟨⟨s.store.nextObject⟩, collection, mapped⟩] := by
    rw [kept, stored, Store.contents_create]
  have matched : (keyFilter key).accepts mapped = true := (accepts mapped).2 (.self keyed held)
  have only := matching_of_appended contents (Store.lookup_eq_notFound_iff.1 none)
    (by simp [ObjectContent.answers, matched])
  exact rests_of_matching only stays keyed (Mapper.merge_self plain sound image keyed) settled

theorem finished_overwrite {object : CanonicalObject} {status : SyncStatus}
    (stays : w.ensure ≠ .absent)
    (found : s.store.lookup collection (keyFilter key) = .found object)
    (run : w.overwrite object (w.mapper.merge mapped object.data) status false s = (.ok o, t)) :
    o ≠ .skipped ∧ Finished w collection mapped key s t := by
  obtain ⟨member, named, accepted, only⟩ := Store.lookup_eq_found found
  have objectKeyed := wellFormed.data object member
  obtain ⟨_, u, changed, run⟩ := Sync.bind_eq_ok run
  obtain ⟨edges, v, reconciled, run⟩ := Sync.bind_eq_ok run
  cases run
  obtain ⟨stored, beside⟩ := Sync.changeObject_eq_ok changed
  obtain ⟨kept, _, settled⟩ :=
    Relations.reconcile_eq_ok (wellFormed.relations.change stored) reconciled
  have same := (Relations.onEdges_reconcile _ _ _ _).sameObjects reconciled
  refine ⟨?_, beside.trans same.toOnlyStore, same.unique (wellFormed.objects.change stored), ?_⟩
  · unfold written
    split <;> nofun
  have contents : t.store.contents = s.store.contents.map fun c =>
      c.written object.id (w.mapper.merge mapped object.data) := by
    rw [kept, Store.contents_change stored]
  -- A merge keeps the object found by the same search, so the next import comes to it again.
  have matched : (keyFilter key).accepts (w.mapper.merge mapped object.data) = true :=
    (accepts _).2 (((accepts _).1 accepted).merge plain sound image keyed objectKeyed.distinct)
  have onlyAfter := matching_of_written wellFormed.objects contents only matched
  exact rests_of_matching onlyAfter stays (Mapper.wellKeyed_merge keyed objectKeyed w.mapper)
    (Mapper.merge_merge plain sound image keyed objectKeyed.distinct) settled

omit plain sound image keyed accepts in
theorem finished_remove {object : CanonicalObject} (absent : w.ensure = .absent)
    (found : s.store.lookup collection (keyFilter key) = .found object)
    (run : remove object.id false s = (.ok o, t)) :
    o ≠ .skipped ∧ Finished w collection mapped key s t := by
  obtain ⟨_, _, _, only⟩ := Store.lookup_eq_found found
  obtain ⟨_, u, cleared, run⟩ := Sync.bind_eq_ok run
  obtain ⟨_, v, deleted, run⟩ := Sync.bind_eq_ok run
  cases run
  obtain ⟨stored, beside⟩ := Sync.deleteObject_eq_ok deleted
  have same := (Relations.onEdges_removeAll _ _).sameObjects cleared
  refine ⟨nofun, same.toOnlyStore.trans beside, ?_, none, ?_, .idle (by rw [absent]; rfl)⟩
  · rw [stored]
    exact (same.unique wellFormed.objects).delete _ _
  · apply Store.lookup_eq_notFound_iff.2
    refine matching_of_filtered (o := object.content) ?_ only
    rw [stored, Store.contents_delete, same.contents]
    rfl

theorem finished_place {there : Option CanonicalObject}
    (held : ∀ name ∈ w.identifiers, ∃ v, Keyed.get? name mapped = some v)
    (answer : Lookup.Answers (s.store.lookup collection (keyFilter key)) there)
    (run : w.place collection mapped time false there s = (.ok o, t)) :
    o ≠ .skipped ∧ Finished w collection mapped key s t := by
  unfold place at run
  cases step : w.ensure.step there with
  | nothing =>
    rw [step] at run
    cases run
    exact ⟨nofun, ⟨rfl, rfl⟩, wellFormed.objects, there, answer, .idle step⟩
  | create =>
    obtain ⟨rfl, stays⟩ := Ensure.step_eq_create step
    rw [step] at run
    obtain ⟨id, u, created, run⟩ := Sync.bind_eq_ok run
    obtain ⟨edges, v, reconciled, run⟩ := Sync.bind_eq_ok run
    cases run
    exact ⟨nofun, finished_create plain sound image keyed accepts wellFormed stays held answer
      created reconciled⟩
  | update object =>
    obtain ⟨rfl, latest⟩ := Ensure.step_eq_update step
    rw [step] at run
    exact finished_overwrite plain sound image keyed accepts wellFormed (by rw [latest]; nofun)
      answer run
  | delete object =>
    obtain ⟨rfl, absent⟩ := Ensure.step_eq_delete step
    rw [step] at run
    exact finished_remove wellFormed absent answer run

end Place

theorem importRecord_again {mapped key : Record} (plain : w.mapper.Plain) (sound : w.mapper.Sound)
    (mappedKeyed : Record.WellKeyed mapped) (wellFormed : s.store.WellFormed)
    (steady : s.faults.Steady) (asks : Asks w evaluate record mapped key s)
    (first : w.importRecord evaluate collection record time false s = (.ok o, t)) :
    o ≠ .skipped ∧ ∀ later, ∃ u,
      w.importRecord evaluate collection record later false t = (.ok .unchanged, u) ∧
        SameContents t u := by
  have image := Mapper.image_map asks.mapping
  have drawn := drawn_identity asks.key
  have accepts (r : Record) : (keyFilter key).accepts r = true ↔ Matches mapped w.identifiers r :=
    accepts_of_drawn (drawn_collect drawn) (plain_identifiers plain sound)
  -- What a record is mapped to and searched by depends on the record alone, not on the store.
  rw [importRecord_of_asks asks] at first
  obtain ⟨answered, there, answer, run⟩ := settle_eq_ok first
  obtain ⟨processed, finished⟩ := finished_place (s := searched s collection key) plain sound image
    mappedKeyed accepts wellFormed drawn.held answer run
  refine ⟨processed, fun later => ?_⟩
  obtain ⟨after, found, rests⟩ := finished.rests
  have calm : t.Calm := finished.beside.calm (steady.calm answered)
  have asksAgain : Asks w evaluate record mapped key t :=
    { asks with bound := (congrArg Endpoint.name finished.beside.endpoint).trans asks.bound }
  obtain ⟨u, placed, same⟩ := place_of_rests (s := searched t collection key) collection later
    finished.unique calm rests
  refine ⟨u, ?_, ⟨same.endpoint, same.faults⟩, same.contents, same.relations⟩
  rw [importRecord_of_asks asksAgain, settle_of_calm calm found]
  exact placed

-- A record that was imported has nothing more to bring: a second import is turned away where the
-- first was, and otherwise finds everything unchanged and leaves all data and edges as they are.
-- What documents and evaluators yield is a document, so its keys are distinct.
theorem imported_again_unchanged {spec : WorkflowSpec} {w : Workflow} {evaluate : Evaluator}
    {collection : String} {record : Record} {time : Timestamp} {s t : Session} {o : Outcome}
    {compile : Pattern.Compiler} (accepted : ofSpec compile spec = .ok w) (plain : w.mapper.Plain)
    (specKeyed : Record.WellKeyed spec.attributes) (evaluateKeyed : evaluate.WellKeyed)
    (recordKeyed : Record.WellKeyed record) (wellFormed : s.store.WellFormed)
    (steady : s.faults.Steady)
    (first : w.importRecord evaluate collection record time false s = (.ok o, t))
    (later : Timestamp) :
    ∃ u, w.importRecord evaluate collection record later false t =
        (.ok (if o = .skipped then .skipped else .unchanged), u) ∧
      u.store.contents = t.store.contents ∧ u.store.relations = t.store.relations := by
  by_cases passed : ∃ mapped key, Asks w evaluate record mapped key s
  · obtain ⟨mapped, key, asks⟩ := passed
    have mappedKeyed := Mapper.wellKeyed_map evaluateKeyed (wellKeyed_ofSpec specKeyed accepted)
      recordKeyed asks.mapping
    obtain ⟨processed, again⟩ := importRecord_again plain (sound_ofSpec accepted) mappedKeyed
      wellFormed steady asks first
    obtain ⟨u, run, same⟩ := again later
    refine ⟨u, ?_, same.contents, same.relations⟩
    rw [run, if_neg processed]
  · rcases importRecord_of_not_asks passed with declines | ⟨e, _, failed⟩
    · cases (importRecord_of_declines declines).symm.trans first
      exact ⟨s, importRecord_of_declines declines, rfl, rfl⟩
    · cases failed.symm.trans first

theorem imported_again_unchanged_for_known_person :
    let spec : WorkflowSpec := ⟨"people", "people", "ldap", .latest, none, ["login"],
      [("login", .object [("from", .string "uid")]),
        ("groups", .object [("from", .string "groups"), ("type", .string "array"),
          ("ensure", .string "MERGE")]),
        ("boss", .object [("from", .string "boss"), ("relation", .object
          [("collection", .string "people"), ("attribute", .string "login")])])]⟩
    let evaluate : Evaluator := fun _ _ => .ok .null
    let record : Record := [("uid", .string "ann"), ("groups", .array [.string "b"]),
      ("boss", .string "ann")]
    let ann : CanonicalObject :=
      ⟨⟨1⟩, "people", 1, [("login", .string "ann"), ("groups", .array [.string "a"])], []⟩
    let s : Session := ⟨⟨[ann], [], 2, 1⟩, .named "ldap", [], .never⟩
    ∃ w t u, ofSpec (Pattern.among []) spec = .ok w ∧
      w.importRecord evaluate "people" record ⟨1, 0⟩ false s = (.ok .updated, t) ∧
      w.importRecord evaluate "people" record ⟨2, 0⟩ false t = (.ok .unchanged, u) ∧
      u.store.contents = t.store.contents ∧ u.store.relations = t.store.relations := by
  intro spec evaluate record ann s
  let w : Workflow := {
    name := "people"
    collection := "people"
    endpoint := "ldap"
    ensure := .latest
    condition := none
    identifiers := ["login"]
    mapper := ⟨[⟨"login", [.path "uid"], .string, .latest, true, [], none, none, none⟩,
      ⟨"groups", [.path "groups"], .array, .merge, true, [], none, none, none⟩,
      ⟨"boss", [.path "boss"], .string, .latest, true, [], none, none,
        some ⟨"people", "login"⟩⟩], by decide⟩
    ensure_ne_merge := by decide
    resolvable := by simp [Mapper.Resolvable, Mapper.find?] }
  have accepted : ofSpec (Pattern.among []) spec = .ok w := by
    dsimp only [spec, w]
    rfl
  have mapping : w.mapper.map evaluate record = .ok [("login", .string "ann"),
      ("groups", .array [.string "b"]), ("boss", .string "ann")] := by
    simp [w, record, Mapper.map, Mapper.mapAll, AttributeDefinition.resolve]
    rfl
  have asks : Asks w evaluate record _ [("login", .string "ann")] s :=
    ⟨rfl, rfl, mapping, rfl, rfl⟩
  have first : ∃ t, w.importRecord evaluate "people" record ⟨1, 0⟩ false s = (.ok .updated, t) := by
    rw [importRecord_of_asks asks]
    exact ⟨_, rfl⟩
  obtain ⟨t, first⟩ := first
  have wellFormed : s.store.WellFormed := by
    refine ⟨⟨by decide, by decide⟩, ⟨List.nodup_nil, List.forall_mem_nil _⟩, ?_⟩
    intro o member
    rw [List.mem_singleton.1 member]
    simp [ann, Record.wellKeyed_iff, Keyed.distinct_cons, Value.wellKeyed_array_iff]
  have specKeyed : Record.WellKeyed spec.attributes := by
    simp [spec, Record.WellKeyed, Value.WellKeyed, Value.WellKeyedFields, Keyed.distinct_cons]
  have recordKeyed : Record.WellKeyed record := by
    simp [record, Record.wellKeyed_iff, Keyed.distinct_cons, Value.wellKeyed_array_iff]
  have evaluateKeyed : evaluate.WellKeyed := by
    rintro code context v _ ⟨⟩
    exact Value.wellKeyed_null
  have plain : w.mapper.Plain := by
    unfold Mapper.Plain
    decide
  have steady : s.faults.Steady := ⟨Or.inl fun _ _ => rfl, fun _ _ _ => rfl⟩
  obtain ⟨u, second, contents, relations⟩ := imported_again_unchanged accepted plain specKeyed
    evaluateKeyed recordKeyed wellFormed steady first ⟨2, 0⟩
  exact ⟨w, t, u, accepted, first, second, contents, relations⟩

end Workflow

end RecordSync
