import RecordSync.Proofs.Exports
import RecordSync.Proofs.ImportPlans

set_option autoImplicit false

namespace RecordSync

namespace Sync

variable {α β : Type} {b : β}

structure Served (r : Except WorkflowError α) : Prop where
  store : ∀ e, r ≠ .error (.store e)
  endpoint : ∀ e, r ≠ .error (.endpoint e)

-- Only a call that fails can keep the computation from an answer.
def Answering (act : Sync α) : Prop :=
  ∀ s, Served (act s).1 → ∃ a, (act s).1 = .ok a

-- Only a call that fails can keep the computation from this answer.
def ComesTo (act : Sync β) (b : β) : Prop :=
  ∀ s, Served (act s).1 → (act s).1 = .ok b

theorem comesTo_pure (b : β) : ComesTo (pure b) b := fun _ _ => rfl

theorem Served.of_ok {r : Except WorkflowError α} {a : α} (ok : r = .ok a) : Served r := by
  subst ok
  exact ⟨fun _ => nofun, fun _ => nofun⟩

theorem served_error {e : WorkflowError}
    (served : Served (Except.error e : Except WorkflowError α)) :
    Served (Except.error e : Except WorkflowError β) :=
  ⟨fun fault same => served.store fault (congrArg Except.error (Except.error.inj same)),
    fun fault same => served.endpoint fault (congrArg Except.error (Except.error.inj same))⟩

theorem ok_of_served {x : Sync α} {f : α → Sync β} {s : Session} (first : Answering x)
    (served : Served ((x >>= f) s).1) : ∃ a u, x s = (.ok a, u) := by
  have answer := first s
  rcases run : x s with ⟨e | a, u⟩ <;> rw [run] at answer
  · rw [bind_of_error run] at served
    obtain ⟨_, ok⟩ := answer (served_error served)
    cases ok
  · exact ⟨a, u, rfl⟩

theorem comesTo_bind {x : Sync α} {f : α → Sync β} (first : Answering x)
    (rest : ∀ a, ComesTo (f a) b) : ComesTo (x >>= f) b := by
  intro s served
  obtain ⟨a, u, run⟩ := ok_of_served first served
  rw [bind_of_ok run] at served ⊢
  exact rest a u served

theorem answering_storeCall {call : StoreCall} {f : Unit → Sync α} (rest : Answering (f ())) :
    Answering (storeCall call >>= f) := by
  intro s served
  cases fault : s.faults.store s.calls.length call with
  | none =>
    rw [storeCall_of_none fault] at served ⊢
    exact rest _ served
  | some e =>
    rw [storeCall_of_some fault] at served
    exact absurd rfl (served.store e)

theorem answering_endpointCall {call : EndpointCall} {f : Unit → Sync α} (rest : Answering (f ())) :
    Answering (endpointCall call >>= f) := by
  intro s served
  cases fault : s.faults.endpoint s.calls.length call with
  | none =>
    rw [endpointCall_of_none fault] at served ⊢
    exact rest _ served
  | some e =>
    rw [endpointCall_of_some fault] at served
    exact absurd rfl (served.endpoint e)

theorem answering_changeObject (id : ObjectId) (data : Record) (simulate : Bool)
    (seed : StatusSeed) : Answering (changeObject id data simulate seed) := by
  apply answering_storeCall
  intro s served
  rw [get_bind] at served ⊢
  cases changed : s.store.change id data simulate (some seed) with
  | ok store => exact ⟨(), rfl⟩
  | error e =>
    rw [changed] at served
    exact absurd rfl (served.store e)

theorem answering_createRow (record : Record) : Answering (createRow record) := by
  apply answering_endpointCall
  intro s served
  rw [get_bind] at served ⊢
  cases created : s.endpoint.create record with
  | ok row => exact ⟨row.1, rfl⟩
  | error e =>
    rw [created] at served
    exact absurd rfl (served.endpoint e)

theorem answering_changeRow (delta : Delta) (record existing : Record) :
    Answering (changeRow delta record existing) := by
  apply answering_endpointCall
  intro s served
  rw [get_bind] at served ⊢
  cases changed : s.endpoint.change delta existing with
  | ok row => exact ⟨row.1, rfl⟩
  | error e =>
    rw [changed] at served
    exact absurd rfl (served.endpoint e)

theorem answering_deleteRow (record existing : Record) : Answering (deleteRow record existing) :=
  answering_endpointCall fun _ _ => ⟨(), rfl⟩

theorem answering_nativeDelta (changes : Changes) : Answering (nativeDelta changes) :=
  answering_endpointCall fun _ _ => ⟨_, rfl⟩

def Foretold (dry real : Sync β) : Prop :=
  ∀ s, Served (dry s).1 → Served (real s).1 → (dry s).1 = (real s).1

theorem ComesTo.foretold {dry real : Sync β} (first : ComesTo dry b) (second : ComesTo real b) :
    Foretold dry real :=
  fun s dryServed realServed => (first s dryServed).trans (second s realServed).symm

theorem foretold_refl (act : Sync β) : Foretold act act := fun _ _ _ => rfl

theorem foretold_bind {x : Sync α} {f g : α → Sync β} (rest : ∀ a, Foretold (f a) (g a)) :
    Foretold (x >>= f) (x >>= g) := by
  intro s
  rcases run : x s with ⟨e | a, u⟩
  · rw [bind_of_error run, bind_of_error run]
    exact fun _ _ => rfl
  · rw [bind_of_ok run, bind_of_ok run]
    exact rest a u

end Sync

namespace Relations

theorem planAll_targets {targets others : Targets} {source : ObjectId} {data : Record}
    {relations : List Relation} {ds : List AttributeDefinition}
    (same : ∀ d ∈ ds, ∀ link value, d.relation = some link → d.ensure ≠ .absent →
      linkValue data d = some value → others link value = targets link value) :
    planAll others source data relations ds = planAll targets source data relations ds := by
  induction ds with
  | nil => rfl
  | cons d ds ih =>
    obtain ⟨first, later⟩ := List.forall_mem_cons.1 same
    have aimed : aim others data d = aim targets data d := by
      unfold aim
      cases related : d.relation with
      | none => rfl
      | some link =>
        by_cases absent : d.ensure = .absent
        · simp [absent]
        · cases linked : linkValue data d with
          | none => rfl
          | some value => simp only [first link value related absent linked]
    unfold planAll planAny
    rw [aimed, ih later]

-- With the data, the object matches the links of its own relations just where it did before.
def SparesLinks (m : Mapper) (s : Store) (id : ObjectId) (data : Record) : Prop :=
  ∀ d ∈ m.related, ∀ link value, d.relation = some link → d.ensure ≠ .absent →
    linkValue data d = some value →
    ∀ o ∈ s.objects, o.id = id → o.collection = link.collection →
      (Filter.equals link.attributeName value).accepts data =
        (Filter.equals link.attributeName value).accepts o.data

theorem targetOf_eq (s : Store) (link : RelationLink) (value : Value) :
    s.targetOf link value = Lookup.ofMatches
      ((s.matching link.collection (.equals link.attributeName value)).map ObjectContent.id) := by
  rw [← Lookup.map_ofMatches, ← Store.map_lookup]
  unfold Store.targetOf
  cases s.lookup link.collection (.equals link.attributeName value) <;> rfl

theorem targetOf_change {s t : Store} {id : ObjectId} {data : Record} {seed : Option StatusSeed}
    {link : RelationLink} {value : Value} (changed : s.change id data false seed = .ok t)
    (spared : ∀ o ∈ s.objects, o.id = id → o.collection = link.collection →
      (Filter.equals link.attributeName value).accepts data =
        (Filter.equals link.attributeName value).accepts o.data) :
    t.targetOf link value = s.targetOf link value := by
  have answers : ∀ o ∈ s.contents,
      (o.written id data).answers link.collection (.equals link.attributeName value) =
        o.answers link.collection (.equals link.attributeName value) := by
    intro o member
    obtain ⟨object, stored, rfl⟩ := List.mem_map.1 member
    by_cases same : object.id = id
    · have shape : object.content.written id data = ⟨object.id, object.collection, data⟩ :=
        if_pos same
      rw [shape]
      by_cases inside : object.collection = link.collection
      · exact congrArg (decide (object.collection = link.collection) && ·)
          (spared object stored same inside)
      · simp [ObjectContent.answers, CanonicalObject.content, inside]
    · have shape : object.content.written id data = object.content := if_neg same
      rw [shape]
  have ids : (ObjectContent.id ∘ fun o => o.written id data) = ObjectContent.id := by
    funext o
    by_cases same : o.id = id <;> simp [ObjectContent.written, same]
  rw [targetOf_eq, targetOf_eq, Store.matching, Store.contents_change changed, List.filter_map,
    List.map_map, ids]
  exact congrArg (fun found => Lookup.ofMatches (found.map ObjectContent.id))
    (List.filter_congr answers)

theorem plan_change {m : Mapper} {s t : Store} {id : ObjectId} {data : Record}
    {seed : Option StatusSeed} (changed : s.change id data false seed = .ok t)
    (spares : SparesLinks m s id data) : plan m id data t = plan m id data s := by
  unfold plan
  rw [Store.relations_change changed]
  exact planAll_targets fun d member link value related stays linked =>
    targetOf_change changed (spares d member link value related stays linked)

end Relations

namespace Workflow

variable {w : Workflow} {evaluate : Evaluator} {collection : String} {record mapped key : Record}
  {time : Timestamp} {simulate : Bool} {s : Session}

theorem comesTo_stamp_return (object : CanonicalObject) (result : String) (id : Option String)
    (o : Outcome) : Sync.ComesTo (do
      w.stamp object time result id simulate
      return o) o :=
  Sync.comesTo_bind (Sync.answering_changeObject _ _ _ _) fun _ => Sync.comesTo_pure o

def delivered (w : Workflow) (mapped : Record) (there : Option Record) : Outcome :=
  match w.ensure.step there with
  | .create => .created
  | .update current => if (w.mapper.diff mapped current).isEmpty then .unchanged else .updated
  | .delete _ => .deleted
  | .nothing => .unchanged

theorem comesTo_deliver (object : CanonicalObject) (mapped : Record) (there : Option Record) :
    Sync.ComesTo (w.deliver object mapped time simulate there) (w.delivered mapped there) := by
  unfold deliver delivered
  dsimp only
  cases w.ensure.step there with
  | nothing => exact Sync.comesTo_pure _
  | create =>
    cases simulate with
    | true => exact comesTo_stamp_return _ _ _ _
    | false =>
      exact Sync.comesTo_bind (Sync.answering_createRow _) fun _ => comesTo_stamp_return _ _ _ _
  | update current =>
    dsimp only
    split
    · exact comesTo_stamp_return _ _ _ _
    · refine Sync.comesTo_bind (Sync.answering_nativeDelta _) fun delta => ?_
      cases simulate with
      | true => exact comesTo_stamp_return _ _ _ _
      | false =>
        exact Sync.comesTo_bind (Sync.answering_changeRow _ _ _) fun _ =>
          comesTo_stamp_return _ _ _ _
  | delete current =>
    cases simulate with
    | true => exact comesTo_stamp_return _ _ _ _
    | false =>
      exact Sync.comesTo_bind (Sync.answering_deleteRow _ _) fun _ => comesTo_stamp_return _ _ _ _

theorem foretold_export (object : CanonicalObject) (time : Timestamp) :
    Sync.Foretold (w.exportObject evaluate object time true)
      (w.exportObject evaluate object time false) := by
  -- The two runs are one up to the delivery.
  unfold exportObject
  refine Sync.foretold_bind fun _ => Sync.foretold_bind fun passed => ?_
  split
  · exact Sync.foretold_refl _
  · exact Sync.foretold_bind fun mapped => Sync.foretold_bind fun there =>
      (comesTo_deliver object mapped there).foretold (comesTo_deliver object mapped there)

theorem comesTo_remove (id : ObjectId) : Sync.ComesTo (remove id simulate) .deleted :=
  fun _ served => (performs_remove id).result_eq served.store

theorem planOverwrite_foretold {object : CanonicalObject} {merged : Record} {status : SyncStatus}
    {store after : Store}
    (changed : store.change object.id merged false (some (w.seed status)) = .ok after)
    (spares : Relations.SparesLinks w.mapper store object.id merged) :
    (w.planOverwrite object merged status true store).result =
      (w.planOverwrite object merged status false store).result := by
  unfold planOverwrite
  rw [planWrite_eq (Store.apply_change changed), Relations.plan_change changed spares]
  rfl

theorem overwrite_foretold {object : CanonicalObject} {merged : Record} {status : SyncStatus}
    (spares : Relations.SparesLinks w.mapper s.store object.id merged)
    (dry : Sync.Served (w.overwrite object merged status true s).1)
    (real : Sync.Served (w.overwrite object merged status false s).1) :
    (w.overwrite object merged status true s).1 = (w.overwrite object merged status false s).1 := by
  obtain ⟨_, u, run⟩ := Sync.ok_of_served (Sync.answering_changeObject _ _ _ _) real
  have changed := (Sync.changeObject_eq_ok run).1
  rw [(performs_overwrite (Store.change_simulated _ _ _ _)).result_eq dry.store,
    (performs_overwrite changed).result_eq real.store]
  exact planOverwrite_foretold changed spares

theorem foretold_cleanUp {object : CanonicalObject}
    (spares : w.ensure = .latest → Relations.SparesLinks w.mapper s.store object.id
      (w.mapper.merge object.data object.data))
    (dry : Sync.Served (w.cleanUp evaluate object time true s).1)
    (real : Sync.Served (w.cleanUp evaluate object time false s).1) :
    (w.cleanUp evaluate object time true s).1 = (w.cleanUp evaluate object time false s).1 := by
  by_cases bound : s.endpoint.name = w.endpoint
  · unfold cleanUp at dry real ⊢
    rw [Sync.bind_of_ok (checkEndpoint_of_eq bound)] at dry real ⊢
    rw [Sync.bind_of_ok (checkEndpoint_of_eq bound)]
    cases admitted : w.admits evaluate object.data with
    | false => rfl
    | true =>
      cases ensure : w.ensure with
      | absent =>
        rw [admitted, ensure] at dry real
        exact (comesTo_remove object.id).foretold (comesTo_remove object.id) s dry real
      | latest =>
        rw [admitted, ensure] at dry real
        exact overwrite_foretold (spares ensure) dry real
      | present | merge => rfl
  · unfold cleanUp
    rw [Sync.bind_of_error (checkEndpoint_of_ne bound),
      Sync.bind_of_error (checkEndpoint_of_ne bound)]

-- A simulated creation cannot tell that a relation of the new object has several targets.
def Overlooks (w : Workflow) (dry real : Except WorkflowError Outcome) : Prop :=
  dry = .ok .created ∧ ∃ d ∈ w.mapper.related, ∃ link count,
    real = .error (.ambiguous (.relation d.name link) count)

theorem planPlace_foretold {there : Option CanonicalObject}
    (stored : ∀ object, there = some object → object ∈ s.store.objects)
    (spares : w.ensure = .latest → ∀ object, there = some object →
      Relations.SparesLinks w.mapper s.store object.id (w.mapper.merge mapped object.data)) :
    (w.planPlace collection mapped time true there s.store).result =
        (w.planPlace collection mapped time false there s.store).result ∨
      w.Overlooks (w.planPlace collection mapped time true there s.store).result
        (w.planPlace collection mapped time false there s.store).result := by
  unfold planPlace
  cases step : w.ensure.step there with
  | nothing => exact Or.inl rfl
  | delete object => exact Or.inl rfl
  | update object =>
    obtain ⟨rfl, latest⟩ := Ensure.step_eq_update step
    obtain ⟨store, changed⟩ := Store.change_of_mem (stored object rfl)
      (w.mapper.merge mapped object.data) (some (w.seed (.synced time)))
    exact Or.inl (planOverwrite_foretold changed (spares latest object rfl))
  | create =>
    -- The simulation ends with the object; the real run goes on to its edges.
    unfold planWrite
    dsimp only
    cases edges : (Relations.plan w.mapper ⟨s.store.nextObject⟩ mapped (s.store.apply false
        (w.creation collection mapped time))).result with
    | ok changes => exact Or.inl rfl
    | error e =>
      right
      obtain ⟨before, d, after, related, ⟨link, count, rfl⟩, _⟩ := Relations.planAll_eq_error edges
      exact ⟨rfl, d, by rw [related]; simp, link, count, rfl⟩

theorem foretold_import
    (spares : w.ensure = .latest → ∀ mapped key object, Asks w evaluate record mapped key s →
      s.store.lookup collection (keyFilter key) = .found object →
        Relations.SparesLinks w.mapper s.store object.id (w.mapper.merge mapped object.data))
    (dry : Sync.Served (w.importRecord evaluate collection record time true s).1)
    (real : Sync.Served (w.importRecord evaluate collection record time false s).1) :
    (w.importRecord evaluate collection record time true s).1 =
        (w.importRecord evaluate collection record time false s).1 ∨
      w.Overlooks (w.importRecord evaluate collection record time true s).1
        (w.importRecord evaluate collection record time false s).1 := by
  by_cases passed : ∃ mapped key, Asks w evaluate record mapped key s
  · obtain ⟨mapped, key, asks⟩ := passed
    rw [(performs_import asks collection time true).result_eq dry.store,
      (performs_import asks collection time false).result_eq real.store]
    rcases planSettle_cases w collection mapped key time s.store with
      ⟨there, answers, plan⟩ | ⟨count, plan⟩ <;> rw [plan, plan]
    · refine planPlace_foretold (fun object found => ?_) fun latest object found => ?_ <;>
        subst found
      · exact (Store.lookup_eq_found answers).1
      · exact spares latest mapped key object asks answers
    · exact Or.inl rfl
  · left
    rcases stops_of_not_asks passed with declines | ⟨e, _, stopped⟩
    · rw [importRecord_of_declines declines, importRecord_of_declines declines]
    · rw [stopped _ _ _ s rfl, stopped _ _ _ s rfl]

-- Wherever no call fails, a simulated import, export or clean-up comes to the result of the real
-- one in the same session. An import or a clean-up that changes an object has to leave it a match
-- for the links of its own relations where it was one, and no match where it was none; an import
-- that creates an object may overlook that one of its relations has several targets.
theorem simulations_foretell_results (w : Workflow) (evaluate : Evaluator) (time : Timestamp)
    (s : Session) :
    (∀ collection record,
      (w.ensure = .latest → ∀ mapped key object, Asks w evaluate record mapped key s →
        s.store.lookup collection (keyFilter key) = .found object →
          Relations.SparesLinks w.mapper s.store object.id (w.mapper.merge mapped object.data)) →
      Sync.Served (w.importRecord evaluate collection record time true s).1 →
      Sync.Served (w.importRecord evaluate collection record time false s).1 →
      (w.importRecord evaluate collection record time true s).1 =
          (w.importRecord evaluate collection record time false s).1 ∨
        w.Overlooks (w.importRecord evaluate collection record time true s).1
          (w.importRecord evaluate collection record time false s).1) ∧
    (∀ object, Sync.Served (w.exportObject evaluate object time true s).1 →
      Sync.Served (w.exportObject evaluate object time false s).1 →
      (w.exportObject evaluate object time true s).1 =
        (w.exportObject evaluate object time false s).1) ∧
    ∀ object, (w.ensure = .latest → Relations.SparesLinks w.mapper s.store object.id
        (w.mapper.merge object.data object.data)) →
      Sync.Served (w.cleanUp evaluate object time true s).1 →
      Sync.Served (w.cleanUp evaluate object time false s).1 →
      (w.cleanUp evaluate object time true s).1 = (w.cleanUp evaluate object time false s).1 :=
  ⟨fun _ _ => foretold_import, fun object => foretold_export object time s,
    fun _ => foretold_cleanUp⟩

section Mates

def matesSpec : WorkflowSpec :=
  ⟨"people", "people", "ldap", .latest, none, ["login"],
    [("login", .object [("from", .string "login")]), ("mail", .object [("from", .string "mail")]),
      ("boss", .object [("from", .string "boss"), ("relation", .object
        [("collection", .string "people"), ("attribute", .string "mail")])])]⟩

def mates : Workflow where
  name := "people"
  collection := "people"
  endpoint := "ldap"
  ensure := .latest
  condition := none
  identifiers := ["login"]
  mapper := ⟨[⟨"login", [.path "login"], .string, .latest, true, [], none, none, none⟩,
    ⟨"mail", [.path "mail"], .string, .latest, true, [], none, none, none⟩,
    ⟨"boss", [.path "boss"], .string, .latest, true, [], none, none, some ⟨"people", "mail"⟩⟩],
    by decide⟩
  ensure_ne_merge := Ensure.latest_ne_merge
  resolvable := by simp [Mapper.Resolvable, Mapper.find?]

theorem ofSpec_mates (compile : Pattern.Compiler) : ofSpec compile matesSpec = .ok mates := by
  unfold matesSpec mates
  rfl

def mate (login mail boss : String) : Record :=
  [("login", .string login), ("mail", .string mail), ("boss", .string boss)]

def known (number : Nat) (data : Record) : CanonicalObject := ⟨⟨number⟩, "people", 1, data, []⟩

theorem map_mate (evaluate : Evaluator) :
    mates.mapper.map evaluate (mate "ann" "a@x" "b@x") = .ok (mate "ann" "a@x" "b@x") ∧
      mates.mapper.map evaluate (mate "ann" "b@x" "b@x") = .ok (mate "ann" "b@x" "b@x") ∧
      mates.mapper.map evaluate (mate "bob" "b@x" "a@x") = .ok (mate "bob" "b@x" "a@x") := by
  simp only [mates, mate, Mapper.map, Mapper.mapAll, AttributeDefinition.resolve]
  exact ⟨rfl, rfl, rfl⟩

theorem sparesLinks_mates {id : ObjectId} {data : Record}
    (kept : ∀ o ∈ s.store.objects, o.id = id → Path.getIn data "mail" = Path.getIn o.data "mail") :
    Relations.SparesLinks mates.mapper s.store id data := by
  intro d member link value related _ _ o stored same _
  cases List.mem_singleton.1 (show d ∈ [_] from member)
  cases related
  simp only [Filter.accepts, kept o stored same]

theorem simulations_foretell_mates :
    let evaluate : Evaluator := fun _ _ => .ok .null
    let bob := known 2 (mate "bob" "b@x" "a@x")
    let ann := known 1 [("login", .string "ann"), ("mail", .string "a@x")]
    let s : Session := ⟨⟨[ann, bob], [], 3, 1⟩, .named "ldap", [], .never⟩
    ((mates.importRecord evaluate "people" (mate "ann" "a@x" "b@x") ⟨1, 0⟩ true s).1 =
        (mates.importRecord evaluate "people" (mate "ann" "a@x" "b@x") ⟨1, 0⟩ false s).1 ∨
      mates.Overlooks
        (mates.importRecord evaluate "people" (mate "ann" "a@x" "b@x") ⟨1, 0⟩ true s).1
        (mates.importRecord evaluate "people" (mate "ann" "a@x" "b@x") ⟨1, 0⟩ false s).1) ∧
    (mates.exportObject evaluate bob ⟨1, 0⟩ true s).1 =
      (mates.exportObject evaluate bob ⟨1, 0⟩ false s).1 ∧
    (mates.cleanUp evaluate bob ⟨1, 0⟩ true s).1 =
      (mates.cleanUp evaluate bob ⟨1, 0⟩ false s).1 := by
  intro evaluate bob ann s
  obtain ⟨importing, _, exporting⟩ := map_mate evaluate
  have asks : Asks mates evaluate (mate "ann" "a@x" "b@x") (mate "ann" "a@x" "b@x")
      [("login", .string "ann")] s := ⟨rfl, rfl, importing, rfl, rfl⟩
  have imported (simulate : Bool) : (mates.importRecord evaluate "people" (mate "ann" "a@x" "b@x")
      ⟨1, 0⟩ simulate s).1 = .ok .updated := by
    rw [importRecord_of_asks asks]
    cases simulate <;> rfl
  have exported (simulate : Bool) :
      (mates.exportObject evaluate bob ⟨1, 0⟩ simulate s).1 = .ok .created := by
    rw [exportObject_of_admitted (u := s) (t := s.logged (.endpoint (.lookup
      [("login", .string "bob")] ["login", "mail", "boss"]))) rfl rfl exporting rfl]
    cases simulate <;> rfl
  have cleaned (simulate : Bool) :
      (mates.cleanUp evaluate bob ⟨1, 0⟩ simulate s).1 = .ok .updated := by
    cases simulate <;> rfl
  obtain ⟨imports, exports, cleanUps⟩ := simulations_foretell_results mates evaluate ⟨1, 0⟩ s
  refine ⟨imports _ _ ?_ (.of_ok (imported true)) (.of_ok (imported false)),
    exports bob (.of_ok (exported true)) (.of_ok (exported false)),
    cleanUps bob ?_ (.of_ok (cleaned true)) (.of_ok (cleaned false))⟩
  · intro _ mapped key object asked found
    cases asked.mapping.symm.trans importing
    cases asked.key
    cases found
    exact sparesLinks_mates (by decide +kernel)
  · exact fun _ => sparesLinks_mates (by decide +kernel)

-- A real import looks a relation up in what it has just written: Ann takes the address of the
-- superior to whom she is linked by it, once as a new person and once as a known one.
theorem simulation_misses_ambiguous_superior :
    let evaluate : Evaluator := fun _ _ => .ok .null
    let bob := known 1 [("login", .string "bob"), ("mail", .string "b@x")]
    let ann := known 2 [("login", .string "ann"), ("mail", .string "a@x")]
    let alone : Session := ⟨⟨[bob], [], 2, 1⟩, .named "ldap", [], .never⟩
    let both : Session := ⟨⟨[bob, ann], [], 3, 1⟩, .named "ldap", [], .never⟩
    let record := mate "ann" "b@x" "b@x"
    ∃ w, ofSpec (Pattern.among []) matesSpec = .ok w ∧
      (w.importRecord evaluate "people" record ⟨1, 0⟩ true alone).1 = .ok .created ∧
      (w.importRecord evaluate "people" record ⟨1, 0⟩ false alone).1 =
        .error (.ambiguous (.relation "boss" "people") 2) ∧
      (w.importRecord evaluate "people" record ⟨1, 0⟩ true both).1 = .ok .updated ∧
      (w.importRecord evaluate "people" record ⟨1, 0⟩ false both).1 =
        .error (.ambiguous (.relation "boss" "people") 2) := by
  intro evaluate bob ann alone both record
  refine ⟨mates, ofSpec_mates _, ?_⟩
  have asks (s : Session) (bound : s.endpoint.name = "ldap") :
      Asks mates evaluate (mate "ann" "b@x" "b@x") (mate "ann" "b@x" "b@x")
        [("login", .string "ann")] s := ⟨bound, rfl, (map_mate evaluate).2.1, rfl, rfl⟩
  rw [importRecord_of_asks (asks alone rfl), importRecord_of_asks (asks alone rfl),
    importRecord_of_asks (asks both rfl), importRecord_of_asks (asks both rfl)]
  exact ⟨rfl, rfl, rfl, rfl⟩

end Mates

end Workflow

end RecordSync
