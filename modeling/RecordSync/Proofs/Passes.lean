import RecordSync.Proofs.Batches
import RecordSync.Proofs.Edges
import RecordSync.Proofs.Identities
import RecordSync.Proofs.Imports

set_option autoImplicit false

namespace RecordSync

namespace Sync

variable {α β : Type} {s : Session}

theorem sameObjects_bind {x : Sync α} {f : α → Sync β} (rest : ∀ a, OnEdges (f a)) :
    Session.SameObjects (x s).2 ((x >>= f) s).2 := by
  rcases run : x s with ⟨e | a, u⟩
  · rw [bind_of_error run]
    exact .refl u
  · rw [bind_of_ok run]
    exact (rest a).same u

theorem createObject_ends (collection : String) (data : Record) (simulate : Bool)
    (seed : StatusSeed) (s : Session) :
    (createObject collection data simulate seed s).2.store = s.store ∨
      (createObject collection data simulate seed s).2.store =
        (s.store.create collection data simulate (some seed)).2 := by
  unfold createObject
  cases fault : s.faults.store s.calls.length (.create collection data simulate (some seed)) with
  | some e =>
    rw [storeCall_of_some fault]
    exact Or.inl rfl
  | none =>
    rw [storeCall_of_none fault]
    exact Or.inr rfl

theorem changeObject_ends (id : ObjectId) (data : Record) (simulate : Bool) (seed : StatusSeed)
    (s : Session) :
    (changeObject id data simulate seed s).2.store = s.store ∨
      s.store.change id data simulate (some seed) =
        .ok (changeObject id data simulate seed s).2.store := by
  cases fault : s.faults.store s.calls.length (.change id data simulate (some seed)) with
  | some e =>
    left
    unfold changeObject
    rw [storeCall_of_some fault]
    rfl
  | none =>
    rw [changeObject_of_none fault]
    cases s.store.change id data simulate (some seed) with
    | ok store => exact Or.inr rfl
    | error e => exact Or.inl rfl

theorem deleteObject_ends (id : ObjectId) (simulate : Bool) (s : Session) :
    (deleteObject id simulate s).2.store = s.store ∨
      (deleteObject id simulate s).2.store = s.store.delete id simulate := by
  unfold deleteObject
  cases fault : s.faults.store s.calls.length (.delete id simulate) with
  | some e =>
    rw [storeCall_of_some fault]
    exact Or.inl rfl
  | none =>
    rw [storeCall_of_none fault]
    exact Or.inr rfl

theorem clear_storeCall_bind {call : StoreCall} {f : Unit → Sync α} (rest : Clear (f ())) :
    Clear (storeCall call >>= f) :=
  clear_bind (clear_storeCall call) fun _ => rest

theorem clear_createObject (collection : String) (data : Record) (simulate : Bool)
    (seed : StatusSeed) : Clear (createObject collection data simulate seed) :=
  clear_storeCall_bind fun _ _ _ => nofun

theorem clear_changeObject (id : ObjectId) (data : Record) (simulate : Bool) (seed : StatusSeed) :
    Clear (changeObject id data simulate seed) := by
  refine clear_storeCall_bind fun s _ _ => ?_
  rw [get_bind]
  cases s.store.change id data simulate (some seed) <;> rintro ⟨⟩

theorem clear_deleteObject (id : ObjectId) (simulate : Bool) : Clear (deleteObject id simulate) :=
  clear_storeCall_bind fun _ _ _ => nofun

end Sync

namespace Workflow

variable {w : Workflow} {mapped key : Record} {s t : Session}

structure Orderly (w : Workflow) (s : Store) : Prop where
  unique : s.UniqueObjects
  known : w.Distinguished s.contents

theorem Orderly.of_same (orderly : w.Orderly s.store) (same : s.SameObjects t) :
    w.Orderly t.store :=
  ⟨same.unique orderly.unique, same.contents ▸ orderly.known⟩

theorem Orderly.pairwise (orderly : w.Orderly s.store) :
    (s.store.inCollection w.collection).Pairwise
      (fun a b => ¬ SameIdentity w.identifiers a.data b.data) := by
  have differ : s.store.objects.Pairwise fun a b => a.id ≠ b.id :=
    List.pairwise_map.1 orderly.unique.ids
  refine (differ.filter _).imp_of_mem fun {a b} aMember bMember differ => ?_
  obtain ⟨aThere, aNamed⟩ := List.mem_filter.1 aMember
  obtain ⟨bThere, bNamed⟩ := List.mem_filter.1 bMember
  exact orderly.known.apart _ (List.mem_map_of_mem aThere) _ (List.mem_map_of_mem bThere)
    (of_decide_eq_true aNamed) (of_decide_eq_true bNamed) differ

structure Wrote (w : Workflow) (id : ObjectId) (s t : Session) : Prop where
  orderly : w.Orderly t.store
  spared : ∀ o ∈ s.store.contents, o.id ≠ id → o ∈ t.store.contents

theorem Wrote.refl (orderly : w.Orderly s.store) (id : ObjectId) : w.Wrote id s s :=
  ⟨orderly, fun _ member _ => member⟩

theorem Wrote.of_same {id : ObjectId} {u : Session} (wrote : w.Wrote id s t)
    (same : t.SameObjects u) : w.Wrote id s u :=
  ⟨wrote.orderly.of_same same, fun o member other => same.contents ▸ wrote.spared o member other⟩

theorem orderly_createObject (scalar : w.Scalar) (orderly : w.Orderly s.store)
    (distinct : Keyed.Distinct mapped) (typed : w.Identifiable mapped)
    (fresh : ∀ o ∈ s.store.contents, o.collection = w.collection →
      ¬ SameIdentity w.identifiers o.data mapped) (simulate : Bool) (seed : StatusSeed) :
    w.Orderly (Sync.createObject w.collection mapped simulate seed s).2.store := by
  rcases Sync.createObject_ends w.collection mapped simulate seed s with same | created
  · rw [same]
    exact orderly
  · rw [created]
    refine ⟨orderly.unique.create _ _ _ _, ?_⟩
    cases simulate with
    | true => exact orderly.known
    | false =>
      rw [Store.contents_create]
      exact orderly.known.append scalar distinct typed fresh

theorem wrote_changeObject {id : ObjectId} {data : Record} (scalar : w.Scalar)
    (orderly : w.Orderly s.store) (distinct : Keyed.Distinct data) (typed : w.Identifiable data)
    (same : ∀ o ∈ s.store.contents, o.id = id → o.collection = w.collection →
      SameIdentity w.identifiers o.data data) (simulate : Bool) (seed : StatusSeed) :
    w.Wrote id s (Sync.changeObject id data simulate seed s).2 := by
  rcases Sync.changeObject_ends id data simulate seed s with kept | changed
  · exact ⟨kept ▸ orderly, fun o member _ => kept ▸ member⟩
  · have unique := orderly.unique.change changed
    cases simulate with
    | true =>
      have kept := (Except.ok.inj changed).symm
      exact ⟨kept ▸ orderly, fun o member _ => kept ▸ member⟩
    | false =>
      have contents := Store.contents_change changed
      refine ⟨⟨unique, ?_⟩, fun o member other => ?_⟩
      · rw [contents]
        exact orderly.known.written scalar distinct typed same
      · rw [contents]
        exact List.mem_map.2 ⟨o, member, if_neg other⟩

theorem wrote_deleteObject (orderly : w.Orderly s.store) (id : ObjectId) (simulate : Bool) :
    w.Wrote id s (Sync.deleteObject id simulate s).2 := by
  rcases Sync.deleteObject_ends id simulate s with kept | deleted
  · exact ⟨kept ▸ orderly, fun o member _ => kept ▸ member⟩
  · have unique := orderly.unique.delete id simulate
    cases simulate with
    | true => exact ⟨deleted ▸ orderly, fun o member _ => deleted ▸ member⟩
    | false =>
      refine ⟨⟨deleted ▸ unique, ?_⟩, fun o member other => ?_⟩
      · rw [deleted, Store.contents_delete]
        exact orderly.known.filter _
      · rw [deleted, Store.contents_delete]
        exact List.mem_filter.2 ⟨member, by simpa using other⟩

theorem wrote_remove (orderly : w.Orderly s.store) (id : ObjectId) (simulate : Bool) :
    w.Wrote id s (remove id simulate s).2 := by
  have removed := Relations.onEdges_removeAll id simulate
  unfold remove
  rcases run : Relations.removeAll id simulate s with ⟨e | _, u⟩
  · rw [Sync.bind_of_error run]
    exact (Wrote.refl orderly id).of_same (removed.sameObjects run)
  · rw [Sync.bind_of_ok run]
    have same := removed.sameObjects run
    have wrote := wrote_deleteObject (orderly.of_same same) id simulate
    refine Wrote.of_same ?_ (Sync.sameObjects_bind fun _ => Sync.onEdges_pure _)
    exact ⟨wrote.orderly, fun o member other => wrote.spared o (same.contents ▸ member) other⟩

theorem clear_place (w : Workflow) (collection : String) (mapped : Record) (time : Timestamp)
    (simulate : Bool) (there : Option CanonicalObject) :
    Sync.Clear (w.place collection mapped time simulate there) := by
  unfold place
  cases w.ensure.step there with
  | nothing => exact Sync.clear_pure _
  | create =>
    refine Sync.clear_bind (Sync.clear_createObject _ _ _ _) fun id => ?_
    cases simulate with
    | true => exact Sync.clear_pure _
    | false =>
      exact Sync.clear_bind (Relations.onEdges_reconcile _ _ _ _).clear fun _ => Sync.clear_pure _
  | update object =>
    exact Sync.clear_bind (Sync.clear_changeObject _ _ _ _) fun _ =>
      Sync.clear_bind (Relations.onEdges_reconcile _ _ _ _).clear fun _ => Sync.clear_pure _
  | delete object =>
    exact Sync.clear_bind (Relations.onEdges_removeAll _ _).clear fun _ =>
      Sync.clear_bind (Sync.clear_deleteObject _ _) fun _ => Sync.clear_pure _

section Scalar

variable (plain : w.mapper.Plain) (sound : w.mapper.Sound) (scalar : w.Scalar)

include plain sound scalar

theorem wrote_overwrite {object : CanonicalObject} (orderly : w.Orderly s.store)
    (stored : object.content ∈ s.store.contents) (named : object.collection = w.collection)
    (mappedTyped : w.Identifiable mapped)
    (same : SameIdentity w.identifiers object.data mapped) (status : SyncStatus)
    (simulate : Bool) :
    w.Wrote object.id s
      (w.overwrite object (w.mapper.merge mapped object.data) status simulate s).2 := by
  have distinct := orderly.known.distinct _ stored named
  have typed := orderly.known.typed _ stored named
  obtain ⟨mergedTyped, toMerged⟩ :=
    sameIdentity_merge scalar plain sound distinct typed mappedTyped same
  have wrote := wrote_changeObject scalar orderly (Mapper.distinct_merge plain sound distinct)
    mergedTyped (fun o member sameId _ => by
      rw [orderly.unique.content_eq member stored sameId]
      exact toMerged) simulate (w.seed status)
  refine wrote.of_same (Sync.sameObjects_bind fun _ => ?_)
  exact Sync.onEdges_bind (Relations.onEdges_reconcile _ _ _ _) fun _ => Sync.onEdges_pure _

theorem orderly_place {there : Option CanonicalObject} (orderly : w.Orderly s.store)
    (distinct : Keyed.Distinct mapped) (typed : w.Identifiable mapped)
    (accepts : ∀ r, (keyFilter key).accepts r = true ↔ Matches mapped w.identifiers r)
    (answer : (s.store.lookup w.collection (keyFilter key)).Answers there) (time : Timestamp)
    (simulate : Bool) :
    w.Orderly (w.place w.collection mapped time simulate there s).2.store := by
  unfold place
  cases step : w.ensure.step there with
  | nothing => exact orderly
  | create =>
    obtain ⟨rfl, _⟩ := Ensure.step_eq_create step
    have fresh : ∀ o ∈ s.store.contents, o.collection = w.collection →
        ¬ SameIdentity w.identifiers o.data mapped := by
      intro o member named same
      have none := Store.lookup_eq_notFound_iff.1 answer
      have matched := (matches_iff_sameIdentity scalar (orderly.known.typed o member named)).2 same
      have listed : o ∈ s.store.matching w.collection (keyFilter key) :=
        List.mem_filter.2 ⟨member, by simp [ObjectContent.answers, named, (accepts _).2 matched]⟩
      rw [none] at listed
      cases listed
    refine (orderly_createObject scalar orderly distinct typed fresh simulate
      (w.seed (.synced time))).of_same (Sync.sameObjects_bind fun id => ?_)
    cases simulate with
    | true => exact Sync.onEdges_pure _
    | false =>
      exact Sync.onEdges_bind (Relations.onEdges_reconcile _ _ _ _) fun _ => Sync.onEdges_pure _
  | update object =>
    obtain ⟨rfl, _⟩ := Ensure.step_eq_update step
    obtain ⟨member, named, accepted, _⟩ := Store.lookup_eq_found answer
    have stored : object.content ∈ s.store.contents := List.mem_map_of_mem member
    have same := (matches_iff_sameIdentity scalar (orderly.known.typed _ stored named)).1
      ((accepts _).1 accepted)
    exact (wrote_overwrite plain sound scalar orderly stored named typed same _ _).orderly
  | delete object => exact (wrote_remove orderly object.id simulate).orderly

omit plain sound in
theorem lookup_ne_multiple (orderly : w.Orderly s.store)
    (typed : w.Identifiable mapped)
    (accepts : ∀ r, (keyFilter key).accepts r = true ↔ Matches mapped w.identifiers r)
    (count : Nat) : s.store.lookup w.collection (keyFilter key) ≠ .multiple count := by
  intro several
  have drawn := Store.map_lookup s.store w.collection (keyFilter key)
  rw [several] at drawn
  have nodup : ((s.store.matching w.collection (keyFilter key)).map ObjectContent.id).Nodup :=
    orderly.unique.ids_contents.sublist (List.filter_sublist.map _)
  have found {o : ObjectContent} (member : o ∈ s.store.matching w.collection (keyFilter key)) :
      o ∈ s.store.contents ∧ o.collection = w.collection ∧
        SameIdentity w.identifiers o.data mapped := by
    obtain ⟨there, answers⟩ := List.mem_filter.1 member
    simp only [ObjectContent.answers, Bool.and_eq_true, decide_eq_true_eq] at answers
    exact ⟨there, answers.1,
      (matches_iff_sameIdentity scalar (orderly.known.typed o there answers.1)).1
        ((accepts _).1 answers.2)⟩
  -- Two matches would have the identity of the record, and so each other's.
  match listed : s.store.matching w.collection (keyFilter key) with
  | [] =>
    rw [listed] at drawn
    cases drawn
  | [_] =>
    rw [listed] at drawn
    cases drawn
  | a :: b :: rest =>
    obtain ⟨aThere, aNamed, toA⟩ := found (o := a) (by rw [listed]; simp)
    obtain ⟨bThere, bNamed, toB⟩ := found (o := b) (by rw [listed]; simp)
    have aTyped := orderly.known.typed a aThere aNamed
    have bTyped := orderly.known.typed b bThere bNamed
    have differ : a.id ≠ b.id := by
      rw [listed] at nodup
      intro same
      simp [same] at nodup
    exact orderly.known.apart a aThere b bThere aNamed bNamed differ
      (sameIdentity_trans scalar aTyped typed bTyped toA
        (sameIdentity_symm scalar bTyped typed toB))

theorem orderly_importRecord (orderly : w.Orderly s.store) (evaluate : Evaluator) (record : Record)
    (time : Timestamp) (simulate : Bool) :
    w.Orderly (w.importRecord evaluate w.collection record time simulate s).2.store ∧
      ∀ count, (w.importRecord evaluate w.collection record time simulate s).1 ≠
        .error (.ambiguous (.canonical w.collection) count) := by
  by_cases passed : ∃ mapped key, Asks w evaluate record mapped key s
  · obtain ⟨mapped, key, asks⟩ := passed
    have image := Mapper.image_map asks.mapping
    have drawn := drawn_identity asks.key
    have accepts (r : Record) :
        (keyFilter key).accepts r = true ↔ Matches mapped w.identifiers r :=
      accepts_of_drawn (drawn_collect drawn) (plain_identifiers plain sound)
    have typed := identifiable_of_image image drawn.held
    rw [importRecord_of_asks asks]
    rcases settle_cases w w.collection mapped key time simulate s with
      ⟨e, failed⟩ | ⟨count, several⟩ | ⟨there, answer, placed⟩
    · rw [failed]
      exact ⟨orderly, fun _ => nofun⟩
    · exact absurd several (lookup_ne_multiple scalar orderly typed accepts count)
    · rw [placed]
      exact ⟨orderly_place (s := searched s w.collection key) plain sound scalar orderly
        image.distinct typed accepts answer time simulate, clear_place _ _ _ _ _ _ _ _⟩
  · rcases importRecord_of_not_asks passed with declines | ⟨e, clear, failed⟩
    · rw [importRecord_of_declines declines]
      exact ⟨orderly, fun _ => nofun⟩
    · rw [failed]
      exact ⟨orderly, fun count same => clear _ count (Except.error.inj same)⟩

theorem wrote_cleanUp {object : CanonicalObject} (orderly : w.Orderly s.store)
    (stored : object.content ∈ s.store.contents) (named : object.collection = w.collection)
    (evaluate : Evaluator) (time : Timestamp) (simulate : Bool) :
    w.Wrote object.id s (w.cleanUp evaluate object time simulate s).2 := by
  have typed := orderly.known.typed _ stored named
  unfold cleanUp
  by_cases bound : s.endpoint.name = w.endpoint
  · rw [Sync.bind_of_ok (checkEndpoint_of_eq bound)]
    cases w.admits evaluate object.data with
    | false => exact .refl orderly _
    | true =>
      cases w.ensure with
      | absent => exact wrote_remove orderly _ _
      | latest =>
        exact wrote_overwrite plain sound scalar orderly stored named typed
          (sameIdentity_refl scalar typed) _ _
      | present => exact .refl orderly _
      | merge => exact .refl orderly _
  · rw [Sync.bind_of_error (checkEndpoint_of_ne bound)]
    exact .refl orderly _

theorem orderly_imports (evaluate : Evaluator) (records : List Record) (time : Timestamp)
    (simulate : Bool) (index : Nat) (report : Report) (orderly : w.Orderly s.store) :
    w.Orderly
      (Batch.trackAll (w.imports evaluate time simulate index records) report s).2.store :=
  imports_invariant (fun t => w.Orderly t.store) (fun record _ orderly =>
    (orderly_importRecord plain sound scalar orderly evaluate record time simulate).1)
      records index report orderly

theorem orderly_cleanUps {objects : List CanonicalObject} (evaluate : Evaluator)
    (time : Timestamp) (simulate : Bool) (report : Report) (orderly : w.Orderly s.store)
    (nodup : (objects.map CanonicalObject.id).Nodup)
    (stored : ∀ o ∈ objects, o.content ∈ s.store.contents ∧ o.collection = w.collection) :
    w.Orderly (Batch.trackAll (objects.map fun o =>
      (o.id.render, w.cleanUp evaluate o time simulate)) report s).2.store := by
  -- Objects that wait for their turn are spared by the writes before, since identifiers differ.
  induction objects generalizing report s with
  | nil => exact orderly
  | cons object rest ih =>
    obtain ⟨now, later⟩ := List.forall_mem_cons.1 stored
    rw [List.map_cons, List.nodup_cons] at nodup
    have wrote := wrote_cleanUp plain sound scalar orderly now.1 now.2 evaluate time simulate
    refine ih _ wrote.orderly nodup.2 fun o member => ⟨?_, (later o member).2⟩
    refine wrote.spared _ (later o member).1 fun same => nodup.1 ?_
    exact List.mem_map.2 ⟨o, member, same⟩

theorem orderly_sweep {stale : List CanonicalObject} {endpoint : String} {time : Timestamp}
    (evaluate : Evaluator) (simulate : Bool) (count : Nat) (orderly : w.Orderly s.store)
    (listed : Sync.staleObjects w.collection endpoint time s = (.ok stale, t)) :
    w.Orderly (Batch.trackAll ((stale.take count).map fun o =>
      (o.id.render, w.cleanUp evaluate o time simulate)) .empty t).2.store := by
  -- A prefix of the pass is a pass as well, so sessions in the middle of one are covered.
  obtain ⟨rfl, rfl⟩ := Sync.staleObjects_eq_ok listed
  have sublist : (s.store.stale w.collection endpoint time).Sublist s.store.objects :=
    List.filter_sublist.trans List.filter_sublist
  have taken := (List.take_sublist count _).trans sublist
  refine orderly_cleanUps (s := s.logged _) plain sound scalar evaluate time simulate .empty orderly
    (orderly.unique.ids.sublist (taken.map _)) fun o member => ⟨?_, ?_⟩
  · exact List.mem_map_of_mem (taken.subset member)
  · have inside := (List.mem_filter.1 (List.mem_of_mem_take member)).1
    exact of_decide_eq_true (List.mem_filter.1 inside).2

end Scalar

-- The sessions between and within passes of a workflow. An import of a batch that is under way is
-- the import of the records that it has seen.
inductive Reached (w : Workflow) (start : Session) : Session → Prop
  | start : Reached w start start
  | imported {s : Session} (evaluate : Evaluator) (records : List Record) (time : Timestamp)
    (simulate : Bool) (before : Reached w start s) :
    Reached w start (w.importAll evaluate records time simulate s).2
  | swept {s : Session} (evaluate : Evaluator) (time : Timestamp) (simulate : Bool)
    (before : Reached w start s) :
    Reached w start (w.collectGarbage evaluate time simulate s).2
  | sweeping {s t : Session} {stale : List CanonicalObject} (evaluate : Evaluator)
    (time : Timestamp) (simulate : Bool) (count : Nat) (before : Reached w start s)
    (listed : Sync.staleObjects w.collection s.endpoint.name time s = (.ok stale, t)) :
    Reached w start (Batch.trackAll ((stale.take count).map fun o =>
      (o.id.render, w.cleanUp evaluate o time simulate)) .empty t).2

theorem Reached.orderly {start : Session} (plain : w.mapper.Plain) (sound : w.mapper.Sound)
    (scalar : w.Scalar) (first : w.Orderly start.store) (reached : w.Reached start s) :
    w.Orderly s.store := by
  induction reached with
  | start => exact first
  | imported evaluate records time simulate _ ih =>
    exact orderly_imports plain sound scalar evaluate records time simulate 0 .empty ih
  | @swept s evaluate time simulate _ ih =>
    show w.Orderly ((Sync.staleObjects w.collection s.endpoint.name time >>= fun stale =>
      Batch.trackAll (stale.map fun o => (o.id.render, w.cleanUp evaluate o time simulate))
        .empty) s).2.store
    rcases listed : Sync.staleObjects w.collection s.endpoint.name time s with ⟨e | stale, t⟩
    · rw [Sync.bind_of_error listed]
      exact ih.of_same ((Sync.onEdges_staleObjects _ _ _).sameObjects listed)
    · rw [Sync.bind_of_ok listed]
      have whole := orderly_sweep plain sound scalar evaluate simulate stale.length ih listed
      rw [List.take_length] at whole
      exact whole
  | sweeping evaluate time simulate count _ listed ih =>
    exact orderly_sweep plain sound scalar evaluate simulate count ih listed

-- From a store without objects of the collection, no passes lead to two that agree on every
-- identifier, and so no import finds several.
theorem identities_stay_unique {spec : WorkflowSpec} {w : Workflow} {start s : Session}
    {compile : Pattern.Compiler} (accepted : ofSpec compile spec = .ok w)
    (plain : w.mapper.Plain) (scalar : w.Scalar)
    (unique : start.store.UniqueObjects) (empty : start.store.inCollection w.collection = [])
    (reached : w.Reached start s) :
    (s.store.inCollection w.collection).Pairwise
      (fun a b => ¬ SameIdentity w.identifiers a.data b.data) ∧
    ∀ evaluate record time simulate count,
      (w.importRecord evaluate w.collection record time simulate s).1 ≠
        .error (.ambiguous (.canonical w.collection) count) := by
  have sound := sound_ofSpec accepted
  have none : ∀ o ∈ start.store.contents, o.collection ≠ w.collection := by
    intro o member named
    obtain ⟨object, there, rfl⟩ := List.mem_map.1 member
    have listed : object ∈ start.store.inCollection w.collection :=
      List.mem_filter.2 ⟨there, decide_eq_true named⟩
    rw [empty] at listed
    cases listed
  have orderly := reached.orderly plain sound scalar ⟨unique, .of_empty none⟩
  exact ⟨orderly.pairwise, fun evaluate record time simulate =>
    (orderly_importRecord plain sound scalar orderly evaluate record time simulate).2⟩

theorem identities_stay_unique_after_repeated_person :
    let spec : WorkflowSpec := ⟨"people", "people", "ldap", .latest, none, ["login"],
      [("login", .object [("from", .string "uid")])]⟩
    let evaluate : Evaluator := fun _ _ => .ok .null
    let records : List Record :=
      [[("uid", .string "ann")], [("uid", .string "bob")], [("uid", .string "ann")]]
    let start : Session := ⟨.empty, .named "ldap", [], .never⟩
    ∃ w s, ofSpec (Pattern.among []) spec = .ok w ∧
      s = (w.collectGarbage evaluate ⟨2, 0⟩ false
        (w.importAll evaluate records ⟨1, 0⟩ false start).2).2 ∧
      (s.store.inCollection "people").length = 2 ∧
      (s.store.inCollection "people").Pairwise
        (fun a b => ¬ SameIdentity ["login"] a.data b.data) ∧
      ∀ evaluate record time simulate count,
        (w.importRecord evaluate "people" record time simulate s).1 ≠
          .error (.ambiguous (.canonical "people") count) := by
  intro spec evaluate records start
  let w : Workflow := {
    name := "people"
    collection := "people"
    endpoint := "ldap"
    ensure := .latest
    condition := none
    identifiers := ["login"]
    mapper := ⟨[⟨"login", [.path "uid"], .string, .latest, true, [], none, none, none⟩], by decide⟩
    ensure_ne_merge := by decide
    resolvable := by simp [Mapper.Resolvable, Mapper.find?] }
  have accepted : ofSpec (Pattern.among []) spec = .ok w := by
    dsimp only [spec, w]
    rfl
  have plain : w.mapper.Plain := by
    unfold Mapper.Plain
    decide
  have scalar : w.Scalar := by
    intro d member _
    rw [List.mem_singleton.1 member]
    decide
  have unique : start.store.UniqueObjects := ⟨List.nodup_nil, List.forall_mem_nil _⟩
  have reached : w.Reached start
      (w.collectGarbage evaluate ⟨2, 0⟩ false
        (w.importAll evaluate records ⟨1, 0⟩ false start).2).2 :=
    .swept evaluate ⟨2, 0⟩ false (.imported evaluate records ⟨1, 0⟩ false .start)
  have two : ((w.collectGarbage evaluate ⟨2, 0⟩ false
      (w.importAll evaluate records ⟨1, 0⟩ false start).2).2.store.inCollection "people").length =
        2 := by
    decide +kernel
  obtain ⟨apart, clear⟩ := identities_stay_unique accepted plain scalar unique rfl reached
  exact ⟨w, _, accepted, rfl, two, apart, clear⟩

end Workflow

end RecordSync
