import RecordSync.Proofs.FailedImports
import RecordSync.Proofs.Merging

set_option autoImplicit false

namespace RecordSync

theorem Relations.AllSettled.single {s : Store} {source : ObjectId} {data : Record}
    {ds : List AttributeDefinition} (settled : AllSettled s source data ds)
    {d : AttributeDefinition} {link : RelationLink} {v : Value} {target : CanonicalObject}
    (declared : d ∈ ds) (related : d.relation = some link) (latest : d.ensure = .latest)
    (holds : Keyed.get? d.name data = some v) (nonempty : v.isEmpty = false)
    (found : s.lookup link.collection (.equals link.attributeName v) = .found target) :
    ∃ edge, edgesOf s.relations source d.name = [edge] ∧ edge.target = target.id := by
  have linked : linkValue data d = some v := by
    simp [linkValue, holds, nonempty]
  have known : s.targetOf link v = .found target.id := by
    rw [Store.targetOf, found]
    rfl
  rcases (settled d declared link related).pointed (by simp [latest]) v linked with
    none | ⟨id, edge, same, only, points⟩
  · cases known.symm.trans none
  · cases known.symm.trans same
    exact ⟨edge, only, points.resolve_right (by simp [latest])⟩

namespace Workflow

variable {compile : Pattern.Compiler} {w : Workflow} {evaluate : Evaluator} {collection : String}
  {record mapped key : Record}
  {time : Timestamp} {s t : Session} {o : Outcome} {id : ObjectId} {data : Record}

structure Linked (w : Workflow) (collection : String) (mapped key : Record) (time : Timestamp)
    (s t : Store) (id : ObjectId) (data : Record) : Prop where
  brings : ∃ brought, Brings w collection mapped key time s id brought
  stands : ∃ object ∈ t.objects, object.id = id ∧ object.data = data
  settled : Relations.AllSettled t id data w.mapper.related

theorem Linked.of_reconciled {u : Session} {edges : EdgeChanges}
    (brings : Brings w collection mapped key time s.store id u.store)
    (unique : s.store.UniqueRelations)
    (stands : ∃ object ∈ u.store.objects, object.id = id ∧ object.data = data)
    (run : Relations.reconcile w.mapper id data false u = (.ok edges, t)) :
    Linked w collection mapped key time s.store t.store id data := by
  obtain ⟨_, _, settled⟩ := Relations.reconcile_eq_ok (brings.uniqueRelations unique) run
  have same := (Relations.onEdges_reconcile _ _ _ _).sameObjects run
  exact ⟨⟨_, brings⟩, same.objects ▸ stands, settled⟩

theorem linked_place {there : Option CanonicalObject} (objects : s.store.UniqueObjects)
    (relations : s.store.UniqueRelations)
    (ensured : w.ensure = .latest)
    (answers : (s.store.lookup collection (keyFilter key)).Answers there)
    (run : w.place collection mapped time false there s = (.ok o, t)) :
    ∃ id data, Linked w collection mapped key time s.store t.store id data ∧
      match there with
      | none => o = .created ∧ data = mapped
      | some object => o ≠ .created ∧ data = w.mapper.merge mapped object.data := by
  unfold place at run
  rw [ensured] at run
  cases there with
  | none =>
    obtain ⟨id, u, created, run⟩ := Sync.bind_eq_ok run
    obtain ⟨edges, v, reconciled, run⟩ := Sync.bind_eq_ok run
    cases run
    obtain ⟨rfl, stored, _⟩ := Sync.createObject_eq_ok created
    refine ⟨_, mapped, .of_reconciled ?_ relations ?_ reconciled, rfl, rfl⟩
    · rw [stored]
      exact .created answers
    · rw [stored]
      exact ⟨_, List.mem_append_right _ (List.mem_singleton_self _), rfl, rfl⟩
  | some object =>
    obtain ⟨_, u, changed, run⟩ := Sync.bind_eq_ok run
    obtain ⟨edges, v, reconciled, run⟩ := Sync.bind_eq_ok run
    cases run
    obtain ⟨stored, _⟩ := Sync.changeObject_eq_ok changed
    refine ⟨_, _, .of_reconciled (.changed answers stored) relations ?_ reconciled, ?_, rfl⟩
    · have member := (Store.lookup_eq_found answers).1
      exact (objects.rewrites member stored).stands member
    · unfold written
      split <;> nofun

theorem get?_merge_of_latest {spec : WorkflowSpec} (accepted : ofSpec compile spec = .ok w)
    (plain : w.mapper.Plain) {d : AttributeDefinition} (declared : d ∈ w.mapper.definitions)
    (latest : d.ensure = .latest) {v : Value} (maps : Keyed.get? d.name mapped = some v)
    (nonempty : v.isEmpty = false) {base : Record} (distinct : Keyed.Distinct base) :
    Keyed.get? d.name (w.mapper.merge mapped base) = some v := by
  rw [Mapper.get?_merge plain (sound_ofSpec accepted) distinct declared, latest, maps]
  simp [Mapper.mergedValue, nonempty]

-- An import that keeps an object in line leaves one edge under an attribute with a link, and that
-- edge points to the one object that the mapped value links to, wherever the object's data have the
-- value under the attribute's name. They do if the import created the object, and, unless a name
-- has a dot, if it changed it.
theorem import_links_mapped_value {spec : WorkflowSpec} {w : Workflow}
    (accepted : ofSpec compile spec = .ok w) (ensured : w.ensure = .latest) (evaluate : Evaluator)
    (collection : String) (record : Record) (time : Timestamp) {s t : Session} {o : Outcome}
    {mapped : Record} {d : AttributeDefinition} {link : RelationLink} {v : Value}
    {target : CanonicalObject} (declared : d ∈ w.mapper.definitions)
    (related : d.relation = some link) (latest : d.ensure = .latest)
    (wellFormed : s.store.WellFormed)
    (run : w.importRecord evaluate collection record time false s = (.ok o, t))
    (processed : o ≠ .skipped) (mapping : w.mapper.map evaluate record = .ok mapped)
    (maps : Keyed.get? d.name mapped = some v)
    (found : t.store.lookup link.collection (.equals link.attributeName v) = .found target) :
    ∃ key brought, ∃ object ∈ t.store.objects, identity mapped w.identifiers = .ok key ∧
      Brings w collection mapped key time s.store object.id brought ∧
      (o = .created ∨ w.mapper.Plain → Keyed.get? d.name object.data = some v) ∧
      (Keyed.get? d.name object.data = some v →
        ∃ edge, edgesOf t.store.relations object.id d.name = [edge] ∧ edge.target = target.id) := by
  have nonempty := ((Mapper.image_map mapping).of_get? declared maps).2.1
  by_cases passed : ∃ mapped key, Asks w evaluate record mapped key s
  · obtain ⟨mapped', key, asks⟩ := passed
    cases asks.mapping.symm.trans mapping
    rw [importRecord_of_asks asks] at run
    obtain ⟨_, there, answers, run⟩ := settle_eq_ok run
    obtain ⟨id, data, ⟨⟨brought, brings⟩, ⟨object, stored, rfl, rfl⟩, settled⟩, made⟩ :=
      linked_place (s := searched s collection key) wellFormed.objects wellFormed.relations ensured
        answers run
    refine ⟨key, brought, object, stored, asks.key, brings, fun follows => ?_, fun holds =>
      settled.single (List.mem_filter.2 ⟨declared, by simp [related]⟩) related latest holds nonempty
        found⟩
    -- A created object holds the mapped record itself, a changed one what the merge made of it.
    cases there with
    | none => rw [made.2, maps]
    | some before =>
      have plain := follows.resolve_left made.1
      have keyed := wellFormed.data before (Store.lookup_eq_found answers).1
      rw [made.2]
      exact get?_merge_of_latest accepted plain declared latest maps nonempty keyed.distinct
  · rcases importRecord_of_not_asks passed with declines | ⟨e, _, failed⟩
    · cases run.symm.trans (importRecord_of_declines declines)
      exact absurd rfl processed
    · cases run.symm.trans failed

theorem import_links_mapped_value_for_new_superior :
    let s : Session := ⟨⟨[person 1 "bob", person 2 "cid", person 3 "ann"],
      [⟨⟨1⟩, ⟨3⟩, ⟨2⟩, "boss"⟩], 4, 2⟩, .named "ldap", [], .never⟩
    let evaluate : Evaluator := fun _ _ => .ok .null
    let mapped : Record := [("login", .string "ann"), ("boss", .string "bob")]
    ∃ w t, ofSpec (Pattern.among []) (superiorsSpec .latest) = .ok w ∧
      w.importRecord evaluate "people" annUnderBob ⟨1, 0⟩ false s = (.ok .updated, t) ∧
      ∃ key brought, ∃ object ∈ t.store.objects, identity mapped w.identifiers = .ok key ∧
        Brings w "people" mapped key ⟨1, 0⟩ s.store object.id brought ∧
        (Outcome.updated = .created ∨ w.mapper.Plain →
          Keyed.get? "boss" object.data = some (.string "bob")) ∧
        (Keyed.get? "boss" object.data = some (.string "bob") →
          ∃ edge, edgesOf t.store.relations object.id "boss" = [edge] ∧ edge.target = ⟨1⟩) := by
  intro s evaluate mapped
  let w := superiors .latest Ensure.latest_ne_merge
  have asks : Asks w evaluate annUnderBob mapped [("login", .string "ann")] s :=
    asks_superiors Ensure.latest_ne_merge rfl
  have run : ∃ t, w.importRecord evaluate "people" annUnderBob ⟨1, 0⟩ false s = (.ok .updated, t) ∧
      t.store.lookup "people" (.equals "login" (.string "bob")) = .found (person 1 "bob") := by
    rw [importRecord_of_asks asks]
    exact ⟨_, rfl, rfl⟩
  obtain ⟨t, run, found⟩ := run
  have wellFormed : s.store.WellFormed := by
    refine ⟨⟨by decide, by decide⟩, ⟨by decide, by decide⟩, fun o member => ?_⟩
    simp only [s, person, List.mem_cons, List.not_mem_nil, or_false] at member
    rcases member with rfl | rfl | rfl <;> simp [Record.wellKeyed_iff, Keyed.distinct_cons]
  have accepted : ofSpec (Pattern.among []) (superiorsSpec .latest) = .ok w := ofSpec_superiors _ _ _
  exact ⟨w, t, accepted, run, import_links_mapped_value accepted rfl evaluate "people" annUnderBob
    ⟨1, 0⟩ (List.mem_cons_of_mem _ List.mem_cons_self) rfl rfl wellFormed run (by decide)
    asks.mapping rfl found⟩

-- Where the data have a plain value in the way of a dotted name, the merge leaves the mapped value
-- out, and no edge is drawn.
theorem import_leaves_out_superior :
    let spec : WorkflowSpec := ⟨"people", "people", "ldap", .latest, none, ["login"],
      [("login", .object [("from", .string "uid")]),
        ("org.boss", .object [("from", .string "boss"), ("relation", .object
          [("collection", .string "people"), ("attribute", .string "login")])])]⟩
    let evaluate : Evaluator := fun _ _ => .ok .null
    let ann : CanonicalObject :=
      ⟨⟨2⟩, "people", 1, [("login", .string "ann"), ("org", .string "sales")], []⟩
    let s : Session := ⟨⟨[person 1 "bob", ann], [], 3, 1⟩, .named "ldap", [], .never⟩
    ∃ w d t, ofSpec (Pattern.among []) spec = .ok w ∧ w.ensure = .latest ∧ d ∈ w.mapper.definitions ∧
      d.name = "org.boss" ∧ d.relation = some ⟨"people", "login"⟩ ∧ d.ensure = .latest ∧
      w.mapper.map evaluate annUnderBob =
        .ok [("login", .string "ann"), ("org.boss", .string "bob")] ∧
      w.importRecord evaluate "people" annUnderBob ⟨1, 0⟩ false s = (.ok .unchanged, t) ∧
      t.store.lookup "people" (.equals "login" (.string "bob")) = .found (person 1 "bob") ∧
      edgesOf t.store.relations ⟨2⟩ "org.boss" = [] := by
  intro spec evaluate ann s
  let w : Workflow := {
    name := "people"
    collection := "people"
    endpoint := "ldap"
    ensure := .latest
    condition := none
    identifiers := ["login"]
    mapper := ⟨[⟨"login", [.path "uid"], .string, .latest, true, [], none, none, none⟩,
      ⟨"org.boss", [.path "boss"], .string, .latest, true, [], none, none,
        some ⟨"people", "login"⟩⟩], by decide⟩
    ensure_ne_merge := by decide
    resolvable := by simp [Mapper.Resolvable, Mapper.find?] }
  have accepted : ofSpec (Pattern.among []) spec = .ok w := by
    dsimp only [spec, w]
    rfl
  have mapping : w.mapper.map evaluate annUnderBob =
      .ok [("login", .string "ann"), ("org.boss", .string "bob")] := by
    simp [w, annUnderBob, Mapper.map, Mapper.mapAll, AttributeDefinition.resolve]
    rfl
  have asks : Asks w evaluate annUnderBob [("login", .string "ann"), ("org.boss", .string "bob")]
      [("login", .string "ann")] s := ⟨rfl, rfl, mapping, rfl, rfl⟩
  have run : ∃ t, w.importRecord evaluate "people" annUnderBob ⟨1, 0⟩ false s =
      (.ok .unchanged, t) ∧
      t.store.lookup "people" (.equals "login" (.string "bob")) = .found (person 1 "bob") ∧
      edgesOf t.store.relations ⟨2⟩ "org.boss" = [] := by
    rw [importRecord_of_asks asks]
    refine ⟨_, rfl, ?_, ?_⟩ <;> decide +kernel
  obtain ⟨t, run⟩ := run
  exact ⟨w, _, t, accepted, rfl, List.mem_cons_of_mem _ List.mem_cons_self, rfl, rfl, rfl, mapping,
    run⟩

end Workflow

end RecordSync
