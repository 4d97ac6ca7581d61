import Mathlib.Logic.Equiv.Basic
import RecordSync.Proofs.ObjectWrites
import RecordSync.Proofs.Passes

set_option autoImplicit false

namespace RecordSync

def CanonicalObject.renamed (rename : ObjectId → ObjectId) (o : CanonicalObject) :
    CanonicalObject :=
  { o with id := rename o.id }

theorem CanonicalObject.renamed_of_fixed {rename : ObjectId → ObjectId} {o : CanonicalObject}
    (fixed : rename o.id = o.id) : o.renamed rename = o := by
  unfold renamed
  rw [fixed]

namespace StoreWrite

variable {x y : StoreWrite} {o : CanonicalObject} {next : Nat}

def about : StoreWrite → Option ObjectId
  | .changeObject id _ _ | .deleteObject id => some id
  | .createObject _ _ _ | .createRelation _ _ _ | .updateRelation _ _ | .deleteRelation _ => none

theorem treat_of_other (other : x.about ≠ some o.id) : x.treat o = some o := by
  cases x with
  | changeObject id data seed | deleteObject id =>
    have differ : o.id ≠ id := fun same => other (congrArg some same.symm)
    simp [treat, differ]
  | _ => rfl

theorem treat_comm (apart : ∀ id, x.about = some id → y.about ≠ some id) (o : CanonicalObject) :
    ((x.treat o).bind fun p => y.treat p) = (y.treat o).bind fun p => x.treat p := by
  -- One of the two leaves the object alone, and whatever the other makes of it as well.
  by_cases mine : x.about = some o.id
  · have other := apart _ mine
    rw [treat_of_other other, Option.bind_some]
    cases treated : x.treat o with
    | none => rfl
    | some p => exact treat_of_other (id_of_treat treated ▸ other)
  · rw [treat_of_other mine, Option.bind_some]
    cases treated : y.treat o with
    | none => rfl
    | some p => exact (treat_of_other (id_of_treat treated ▸ mine)).symm

def Old (next : Nat) (x : StoreWrite) : Prop := ∀ id, x.about = some id → id.number < next

theorem filterMap_born (old : x.Old next) (y : StoreWrite) :
    (y.born next).filterMap (treat · x) = y.born next := by
  have spared : ∀ o ∈ y.born next, x.treat o = some o := by
    intro o born
    apply treat_of_other
    rw [id_of_born born]
    exact fun mine => Nat.lt_irrefl _ (old _ mine)
  rw [List.filterMap_congr spared, List.filterMap_some]

end StoreWrite

namespace Store

variable {s t u v : Store} {x y : StoreWrite} {next : Nat} {collection : String} {filter : Filter}

-- The same objects in some order, where those that were not yet there may have other numbers.
def Alike (next : Nat) (s t : Store) : Prop :=
  ∃ rename : Equiv.Perm ObjectId, (∀ id, id.number < next → rename id = id) ∧
    (s.objects.map (CanonicalObject.renamed rename)).Perm t.objects

theorem Alike.of_eq (same : s.objects = t.objects) : Alike next s t := by
  refine ⟨Equiv.refl _, fun _ _ => rfl, ?_⟩
  have kept : s.objects.map (CanonicalObject.renamed (Equiv.refl ObjectId)) = s.objects :=
    List.map_id _
  rw [kept, same]

theorem Alike.symm (alike : Alike next s t) : Alike next t s := by
  obtain ⟨rename, fixed, perm⟩ := alike
  refine ⟨rename.symm, fun id old => ?_, ?_⟩
  · rw [Equiv.symm_apply_eq, fixed id old]
  · refine ((perm.map (CanonicalObject.renamed rename.symm)).symm).trans ?_
    rw [List.map_map]
    have back : (CanonicalObject.renamed rename.symm ∘ CanonicalObject.renamed rename) = id := by
      funext o
      simp [CanonicalObject.renamed]
    rw [back, List.map_id]

theorem Alike.congr (first : s.SameObjects u) (second : t.SameObjects v)
    (alike : Alike next s t) : Alike next u v := by
  unfold Alike
  rw [first.objects, second.objects]
  exact alike

theorem objects_apply_apply (s : Store) (x y : StoreWrite) :
    ((s.apply false x).apply false y).objects =
      (s.objects.filterMap (StoreWrite.treat · x)).filterMap (StoreWrite.treat · y) ++
        (x.born s.nextObject).filterMap (StoreWrite.treat · y) ++
          y.born (s.nextObject + (x.born s.nextObject).length) := by
  rw [objects_apply, objects_apply, nextObject_apply, List.filterMap_append]

theorem apply_comm_of_silent (silent : ∀ next, x.born next = []) (old : x.Old s.nextObject)
    (apart : ∀ id, x.about = some id → y.about ≠ some id) :
    ((s.apply false x).apply false y).objects = ((s.apply false y).apply false x).objects := by
  -- What the other one creates is too new for this one to be about.
  rw [objects_apply_apply, objects_apply_apply, silent, silent, StoreWrite.filterMap_born old,
    List.filterMap_filterMap, List.filterMap_filterMap]
  simp only [List.filterMap_nil, List.append_nil, List.length_nil, Nat.add_zero]
  congr 1
  exact List.filterMap_congr fun o _ => StoreWrite.treat_comm apart o

theorem objects_create_create (s : Store) (c d : String) (r q : Record) (a b : StatusSeed) :
    ((s.apply false (.createObject c r a)).apply false (.createObject d q b)).objects =
      s.objects ++ [⟨⟨s.nextObject⟩, c, 1, r, [(a.endpoint, a.status)]⟩,
        ⟨⟨s.nextObject + 1⟩, d, 1, q, [(b.endpoint, b.status)]⟩] := by
  rw [objects_apply_apply]
  simp [StoreWrite.treat, StoreWrite.born]

theorem apply_comm (below : ∀ o ∈ s.objects, o.id.number < s.nextObject)
    (xOld : x.Old s.nextObject) (yOld : y.Old s.nextObject)
    (apart : ∀ id, x.about = some id → y.about ≠ some id) :
    Alike s.nextObject ((s.apply false x).apply false y) ((s.apply false y).apply false x) := by
  rcases x.born_cases with silent | ⟨c, r, a, rfl⟩
  · exact .of_eq (apply_comm_of_silent silent xOld apart)
  rcases y.born_cases with silent | ⟨d, q, b, rfl⟩
  · exact (Alike.of_eq (apply_comm_of_silent silent yOld fun id mine other =>
      apart id other mine)).symm
  -- Both create, and the two numbers that they take are exchanged.
  have fixed : ∀ id : ObjectId, id.number < s.nextObject →
      Equiv.swap ⟨s.nextObject⟩ ⟨s.nextObject + 1⟩ id = id := by
    intro id old
    apply Equiv.swap_apply_of_ne_of_ne
    · rintro rfl
      exact Nat.lt_irrefl _ old
    · rintro rfl
      exact Nat.lt_asymm old (Nat.lt_succ_self _)
  refine ⟨_, fixed, ?_⟩
  have kept : s.objects.map (CanonicalObject.renamed
      (Equiv.swap ⟨s.nextObject⟩ ⟨s.nextObject + 1⟩)) = s.objects := by
    rw [List.map_congr_left fun o member =>
      CanonicalObject.renamed_of_fixed (fixed o.id (below o member)), List.map_id']
  rw [objects_create_create, objects_create_create, List.map_append, kept]
  apply List.Perm.append_left
  simp only [List.map_cons, List.map_nil, CanonicalObject.renamed, Equiv.swap_apply_left,
    Equiv.swap_apply_right]
  exact List.Perm.swap _ _ _

theorem written_comm {p q : Option StoreWrite}
    (below : ∀ o ∈ s.objects, o.id.number < s.nextObject)
    (pOld : ∀ x, p = some x → x.Old s.nextObject) (qOld : ∀ y, q = some y → y.Old s.nextObject)
    (apart : ∀ x y id, p = some x → q = some y → x.about = some id → y.about ≠ some id) :
    Alike s.nextObject ((s.written false p.toList).written false q.toList)
      ((s.written false q.toList).written false p.toList) := by
  cases p with
  | none => exact .of_eq rfl
  | some x =>
    cases q with
    | none => exact .of_eq rfl
    | some y => exact apply_comm below (pOld x rfl) (qOld y rfl) fun id => apart x y id rfl rfl

-- A search takes no notice of a write: neither what is there nor what comes of it is found.
structure Unnoticed (s : Store) (collection : String) (filter : Filter) (x : StoreWrite) :
    Prop where
  kept : ∀ o ∈ s.objects, o.content.answers collection filter = true → x.treat o = some o
  hidden : ∀ o ∈ s.objects, ∀ y, x.treat o = some y →
    y.content.answers collection filter = true → o.content.answers collection filter = true
  born : ∀ o ∈ x.born s.nextObject, o.content.answers collection filter = false

theorem lookup_eq_ofMatches (s : Store) (collection : String) (filter : Filter) :
    s.lookup collection filter =
      Lookup.ofMatches (s.objects.filter fun o => o.content.answers collection filter) := by
  unfold lookup inCollection
  rw [List.filter_filter]
  congr 1
  exact List.filter_congr fun o _ => Bool.and_comm _ _

theorem Unnoticed.lookup_apply (unnoticed : s.Unnoticed collection filter x) :
    (s.apply false x).lookup collection filter = s.lookup collection filter := by
  have none : (x.born s.nextObject).filter (fun o => o.content.answers collection filter) = [] :=
    List.filter_eq_nil_iff.2 fun o born => by simp [unnoticed.born o born]
  rw [lookup_eq_ofMatches, lookup_eq_ofMatches, objects_apply, List.filter_append, none,
    List.append_nil, List.filter_filterMap, ← List.filterMap_eq_filter]
  congr 1
  apply List.filterMap_congr
  intro o member
  cases answers : o.content.answers collection filter with
  | true => simp [unnoticed.kept o member answers, answers, Option.guard]
  | false =>
    cases treated : x.treat o with
    | none => simp [answers, Option.guard]
    | some y =>
      have missed : ¬ y.content.answers collection filter = true := fun found => by
        cases answers.symm.trans (unnoticed.hidden o member y treated found)
      simp [answers, missed, Option.guard]

end Store

namespace Sync

variable {f g : Sync Outcome} {s : Session}

-- Two computations come to the same in either order: to the same results, and to the same objects
-- but for their order and the numbers of new ones.
structure Commutes (f g : Sync Outcome) (s : Session) : Prop where
  first : (f (g s).2).1 = (f s).1
  second : (g (f s).2).1 = (g s).1
  objects : Store.Alike s.store.nextObject (g (f s).2).2.store (f (g s).2).2.store

theorem Commutes.symm (commutes : Commutes f g s) : Commutes g f s :=
  ⟨commutes.second, commutes.first, commutes.objects.symm⟩

theorem commutes_of_idle {ended : Except WorkflowError Outcome} (before : f s = (ended, s))
    (after : f (g s).2 = (ended, (g s).2)) : Commutes f g s := by
  refine ⟨?_, ?_, .of_eq ?_⟩
  · rw [before, after]
  · rw [before]
  · rw [before, after]

end Sync

namespace Workflow

variable {w : Workflow} {evaluate : Evaluator} {record mapped key another other otherKey : Record}
  {time : Timestamp} {s t : Session} {store : Store} {there beyond : Option CanonicalObject}
  {x y : StoreWrite}

structure Confined (w : Workflow) (mapped : Record) (store : Store) (x : StoreWrite) : Prop where
  found : ∀ id, x.about = some id → ∃ o ∈ store.objects, o.id = id ∧ o.collection = w.collection ∧
    SameIdentity w.identifiers o.data mapped
  left : ∀ o ∈ store.objects, ∀ y, x.about = some o.id → x.treat o = some y →
    w.Identifiable y.data ∧ SameIdentity w.identifiers y.data mapped
  born : ∀ o ∈ x.born store.nextObject,
    w.Identifiable o.data ∧ SameIdentity w.identifiers o.data mapped

structure Sought (w : Workflow) (mapped key : Record) : Prop where
  typed : w.Identifiable mapped
  accepts : ∀ r, (keyFilter key).accepts r = true ↔ Matches mapped w.identifiers r

theorem Asks.sought (plain : w.mapper.Plain) (sound : w.mapper.Sound)
    (asks : Asks w evaluate record mapped key s) : Sought w mapped key := by
  have drawn := drawn_identity asks.key
  exact ⟨identifiable_of_image (Mapper.image_map asks.mapping) drawn.held,
    fun r => accepts_of_drawn (drawn_collect drawn) (plain_identifiers plain sound)⟩

section Scalar

variable (plain : w.mapper.Plain) (sound : w.mapper.Sound) (scalar : w.Scalar)

include scalar

theorem Sought.accepts_iff (sought : Sought w mapped key) {r : Record}
    (typed : w.Identifiable r) :
    (keyFilter key).accepts r = true ↔ SameIdentity w.identifiers r mapped :=
  (sought.accepts r).trans (matches_iff_sameIdentity scalar typed)

theorem not_sameIdentity_both {r : Record} (typed : w.Identifiable r)
    (first : w.Identifiable mapped) (second : w.Identifiable other)
    (apart : ¬ SameIdentity w.identifiers mapped other)
    (mine : SameIdentity w.identifiers r mapped) : ¬ SameIdentity w.identifiers r other :=
  fun theirs => apart (sameIdentity_trans scalar first typed second
    (sameIdentity_symm scalar typed first mine) theirs)

theorem Sought.exists_answers (orderly : w.Orderly s.store) (sought : Sought w mapped key) :
    ∃ there, (s.store.lookup w.collection (keyFilter key)).Answers there := by
  cases found : s.store.lookup w.collection (keyFilter key) with
  | found object => exact ⟨some object, rfl⟩
  | notFound => exact ⟨none, rfl⟩
  | unresolvable => exact absurd found Store.lookup_ne_unresolvable
  | multiple count =>
    exact absurd found (lookup_ne_multiple scalar orderly sought.typed sought.accepts count)

theorem Confined.unnoticed (orderly : w.Orderly store) (sought : Sought w mapped key)
    (typed : w.Identifiable other) (apart : ¬ SameIdentity w.identifiers other mapped)
    (confined : w.Confined other store x) : store.Unnoticed w.collection (keyFilter key) x := by
  have refused {o : CanonicalObject} (full : w.Identifiable o.data)
      (same : SameIdentity w.identifiers o.data other) :
      ¬ o.content.answers w.collection (keyFilter key) = true := by
    intro answers
    simp only [ObjectContent.answers, Bool.and_eq_true] at answers
    exact not_sameIdentity_both scalar full typed sought.typed apart same
      ((sought.accepts_iff scalar full).1 answers.2)
  refine ⟨fun o member answers => ?_, fun o member y treated answers => ?_, fun o born => ?_⟩
  -- What the search finds is of its own identity, so the write is not about it.
  · apply StoreWrite.treat_of_other
    intro about
    obtain ⟨object, there, same, named, identity⟩ := confined.found _ about
    cases orderly.unique.eq_of_id_eq there member same
    exact refused (orderly.known.typed _ (List.mem_map_of_mem there) named) identity answers
  · by_cases about : x.about = some o.id
    · obtain ⟨full, same⟩ := confined.left o member y about treated
      exact absurd answers (refused full same)
    · cases (StoreWrite.treat_of_other about).symm.trans treated
      exact answers
  · obtain ⟨full, same⟩ := confined.born o born
    simpa using refused full same

theorem Confined.apart (orderly : w.Orderly store) (first : w.Identifiable mapped)
    (second : w.Identifiable other) (apart : ¬ SameIdentity w.identifiers mapped other)
    (confined : w.Confined mapped store x) (confinedToo : w.Confined other store y) (id : ObjectId)
    (mine : x.about = some id) : y.about ≠ some id := by
  intro theirs
  obtain ⟨o, there, rfl, named, same⟩ := confined.found id mine
  obtain ⟨p, member, sameId, _, differs⟩ := confinedToo.found _ theirs
  cases orderly.unique.eq_of_id_eq member there sameId
  exact not_sameIdentity_both scalar (orderly.known.typed _ (List.mem_map_of_mem there) named)
    first second apart same differs

omit scalar in
theorem Confined.old (orderly : w.Orderly store) (confined : w.Confined mapped store x) :
    x.Old store.nextObject := by
  intro id about
  obtain ⟨o, member, rfl, _⟩ := confined.found id about
  exact orderly.unique.below o member

theorem confined_creation (typed : w.Identifiable mapped) (collection : String)
    (time : Timestamp) (store : Store) :
    w.Confined mapped store (w.creation collection mapped time) := by
  refine ⟨fun _ => nofun, fun _ _ _ => nofun, fun o born => ?_⟩
  rw [List.mem_singleton.1 born]
  exact ⟨typed, sameIdentity_refl scalar typed⟩

omit scalar in
theorem confined_delete {object : CanonicalObject} (member : object ∈ store.objects)
    (named : object.collection = w.collection)
    (same : SameIdentity w.identifiers object.data mapped) :
    w.Confined mapped store (.deleteObject object.id) := by
  refine ⟨?_, fun o _ y about treated => ?_, fun _ => nofun⟩
  · rintro id ⟨⟩
    exact ⟨object, member, rfl, named, same⟩
  · have hit : o.id = object.id := (Option.some.inj about).symm
    simp [StoreWrite.treat, hit] at treated

include plain sound

theorem confined_change {object : CanonicalObject} (orderly : w.Orderly store)
    (typed : w.Identifiable mapped) (member : object ∈ store.objects)
    (named : object.collection = w.collection)
    (same : SameIdentity w.identifiers object.data mapped) (seed : StatusSeed) :
    w.Confined mapped store
      (.changeObject object.id (w.mapper.merge mapped object.data) seed) := by
  refine ⟨?_, fun o there y about treated => ?_, fun _ => nofun⟩
  · rintro id ⟨⟩
    exact ⟨object, member, rfl, named, same⟩
  -- A merge takes an object of the record's identity to one of the same.
  · cases orderly.unique.eq_of_id_eq there member (Option.some.inj about).symm
    simp only [StoreWrite.treat, if_true] at treated
    cases treated
    have stored := List.mem_map_of_mem (f := CanonicalObject.content) member
    have objectTyped := orderly.known.typed _ stored named
    obtain ⟨full, merged⟩ := sameIdentity_merge scalar plain sound
      (orderly.known.distinct _ stored named) objectTyped typed same
    exact ⟨full, sameIdentity_trans scalar full objectTyped typed
      (sameIdentity_symm scalar objectTyped full merged) same⟩

theorem confined_placing (orderly : w.Orderly store) (sought : Sought w mapped key)
    (answers : (store.lookup w.collection (keyFilter key)).Answers there)
    (placed : w.placing w.collection mapped time there = some x) : w.Confined mapped store x := by
  have matched {object : CanonicalObject} (found : there = some object) :
      object ∈ store.objects ∧ object.collection = w.collection ∧
        SameIdentity w.identifiers object.data mapped := by
    subst found
    obtain ⟨member, named, accepted, _⟩ := Store.lookup_eq_found answers
    have typed := orderly.known.typed _ (List.mem_map_of_mem member) named
    exact ⟨member, named, (sought.accepts_iff scalar typed).1 accepted⟩
  unfold placing at placed
  cases step : w.ensure.step there <;> rw [step] at placed <;> cases placed
  case create => exact confined_creation scalar sought.typed _ _ _
  case delete object =>
    obtain ⟨member, named, same⟩ := matched (Ensure.step_eq_delete step).1
    exact confined_delete member named same
  case update object =>
    obtain ⟨member, named, same⟩ := matched (Ensure.step_eq_update step).1
    exact confined_change plain sound scalar orderly sought.typed member named same _

end Scalar

def settled (w : Workflow) (mapped : Record) (there : Option CanonicalObject) : Outcome :=
  match w.ensure.step there with
  | .create => .created
  | .update object =>
    written (!Record.agrees (w.mapper.merge mapped object.data) object.data) .zero
  | .delete _ => .deleted
  | .nothing => .unchanged

theorem planPlace_result (unrelated : w.mapper.related = []) (there : Option CanonicalObject)
    (store : Store) : (w.planPlace w.collection mapped time false there store).result =
      .ok (w.settled mapped there) := by
  have edges (id : ObjectId) (data : Record) (store : Store) :
      (Relations.plan w.mapper id data store).result = .ok .zero := by
    unfold Relations.plan
    rw [unrelated]
    rfl
  unfold planPlace settled
  cases w.ensure.step there with
  | nothing => rfl
  | delete object => rfl
  | create => exact congrArg (Except.map _) (edges _ _ _)
  | update object => exact congrArg (Except.map _) (edges _ _ _)

theorem import_settles (unrelated : w.mapper.related = [])
    (asks : Asks w evaluate record mapped key s) (calm : s.Calm)
    (answers : (s.store.lookup w.collection (keyFilter key)).Answers there) :
    (w.importRecord evaluate w.collection record time false s).1 =
      .ok (w.settled mapped there) := by
  rw [((performs_import asks w.collection time false).of_calm calm).1,
    planSettle_of_answers answers, planPlace_result unrelated]

section Scalar

variable (plain : w.mapper.Plain) (sound : w.mapper.Sound) (scalar : w.Scalar)

include plain sound scalar

-- An import leaves a record of another identity to be imported as before it.
theorem import_spares (orderly : w.Orderly s.store) (calm : s.Calm)
    (asks : Asks w evaluate record mapped key s) (asking : Asks w evaluate another other otherKey s)
    (apart : ¬ SameIdentity w.identifiers mapped other)
    (beyond : (s.store.lookup w.collection (keyFilter otherKey)).Answers there)
    (time : Timestamp) :
    let t := (w.importRecord evaluate w.collection record time false s).2
    Asks w evaluate another other otherKey t ∧ t.Calm ∧
      (t.store.lookup w.collection (keyFilter otherKey)).Answers there := by
  intro t
  have beside := onlyStore_import w evaluate w.collection record time s
  refine ⟨{ asking with bound := ?_ }, beside.calm calm, ?_⟩
  · rw [beside.endpoint]
    exact asking.bound
  · have sought := asks.sought plain sound
    have seeking := asking.sought plain sound
    obtain ⟨found, answers⟩ := sought.exists_answers scalar orderly
    have same := import_objects_of_calm asks calm answers time
    rw [show t.store.lookup _ _ = _ from same.lookup_eq w.collection (keyFilter otherKey)]
    cases placed : w.placing w.collection mapped time found with
    | none => exact beyond
    | some x =>
      have confined := confined_placing plain sound scalar orderly sought answers placed
      show ((s.store.apply false x).lookup _ _).Answers there
      rw [(confined.unnoticed scalar orderly seeking sought.typed apart).lookup_apply]
      exact beyond

theorem commutes_of_asks (unrelated : w.mapper.related = []) (orderly : w.Orderly s.store)
    (calm : s.Calm) (asks : Asks w evaluate record mapped key s)
    (asking : Asks w evaluate another other otherKey s)
    (apart : ¬ SameIdentity w.identifiers mapped other) (time : Timestamp) :
    Sync.Commutes (w.importRecord evaluate w.collection record time false)
      (w.importRecord evaluate w.collection another time false) s := by
  have sought := asks.sought plain sound
  have seeking := asking.sought plain sound
  have apartAgain : ¬ SameIdentity w.identifiers other mapped :=
    fun same => apart (sameIdentity_symm scalar seeking.typed sought.typed same)
  obtain ⟨there, answers⟩ := sought.exists_answers scalar orderly
  obtain ⟨beyond, answering⟩ := seeking.exists_answers scalar orderly
  obtain ⟨askingThen, calmThen, answeringThen⟩ :=
    import_spares plain sound scalar orderly calm asks asking apart answering time
  obtain ⟨asksThen, stillCalm, answersThen⟩ :=
    import_spares plain sound scalar orderly calm asking asks apartAgain answers time
  -- Each search answers alike in both orders, so each import comes to the same and writes the same.
  refine ⟨?_, ?_, ?_⟩
  · rw [import_settles unrelated asks calm answers,
      import_settles unrelated asksThen stillCalm answersThen]
  · rw [import_settles unrelated asking calm answering,
      import_settles unrelated askingThen calmThen answeringThen]
  · have one := ((import_objects_of_calm asks calm answers time).written _).trans
      (import_objects_of_calm askingThen calmThen answeringThen time)
    have two := ((import_objects_of_calm asking calm answering time).written _).trans
      (import_objects_of_calm asksThen stillCalm answersThen time)
    have confined (x : StoreWrite) (placed : w.placing w.collection mapped time there = some x) :
        w.Confined mapped s.store x :=
      confined_placing plain sound scalar orderly sought answers placed
    have confinedToo (x : StoreWrite) (placed : w.placing w.collection other time beyond = some x) :
        w.Confined other s.store x :=
      confined_placing plain sound scalar orderly seeking answering placed
    refine Store.Alike.congr one two (Store.written_comm orderly.unique.below ?_ ?_ ?_)
    · exact fun x placed => (confined x placed).old orderly
    · exact fun x placed => (confinedToo x placed).old orderly
    · exact fun x y id mine theirs => (confined x mine).apart scalar orderly sought.typed
        seeking.typed apart (confinedToo y theirs) id

end Scalar

-- What it comes to is fixed by the record and the name of the endpoint.
theorem idle_of_not_asks (none : ¬ ∃ mapped key, Asks w evaluate record mapped key s) :
    ∃ ended, ∀ t, t.endpoint.name = s.endpoint.name →
      w.importRecord evaluate w.collection record time false t = (ended, t) := by
  rcases stops_of_not_asks none with ⟨bound, refused⟩ | ⟨e, _, stopped⟩
  · exact ⟨.ok .skipped, fun t same => importRecord_of_declines ⟨same.trans bound, refused⟩⟩
  · exact ⟨.error e, fun t same => stopped _ _ _ t same⟩

theorem commutes_of_not_asks (none : ¬ ∃ mapped key, Asks w evaluate record mapped key s)
    (another : Record) (time : Timestamp) :
    Sync.Commutes (w.importRecord evaluate w.collection record time false)
      (w.importRecord evaluate w.collection another time false) s := by
  obtain ⟨ended, idle⟩ := idle_of_not_asks none
  have beside := onlyStore_import w evaluate w.collection another time s
  exact Sync.commutes_of_idle (idle s rfl) (idle _ (congrArg Endpoint.name beside.endpoint))

-- Wherever the passes of a workflow lead from a store without objects of the collection, two real
-- imports of records that are not mapped to one identity can be made in either order.
theorem imports_commute {spec : WorkflowSpec} {w : Workflow} {start s : Session}
    {compile : Pattern.Compiler} (accepted : ofSpec compile spec = .ok w)
    (plain : w.mapper.Plain) (scalar : w.Scalar)
    (unrelated : ∀ d ∈ w.mapper.definitions, d.relation = none)
    (unique : start.store.UniqueObjects)
    (empty : ∀ o ∈ start.store.objects, o.collection ≠ w.collection)
    (reached : w.Reached start s) (calm : s.Calm) (evaluate : Evaluator) (one two : Record)
    (apart : ∀ x y, w.mapper.map evaluate one = .ok x → w.mapper.map evaluate two = .ok y →
      ¬ SameIdentity w.identifiers x y) (time : Timestamp) :
    Sync.Commutes (w.importRecord evaluate w.collection one time false)
      (w.importRecord evaluate w.collection two time false) s := by
  have sound := sound_ofSpec accepted
  have unlinked : w.mapper.related = [] :=
    List.filter_eq_nil_iff.2 fun d declared => by simp [unrelated d declared]
  have none : ∀ o ∈ start.store.contents, o.collection ≠ w.collection :=
    List.forall_mem_map.2 empty
  have orderly := reached.orderly plain sound scalar ⟨unique, .of_empty none⟩
  by_cases asks : ∃ mapped key, Asks w evaluate one mapped key s
  · by_cases asking : ∃ mapped key, Asks w evaluate two mapped key s
    · obtain ⟨mapped, key, asks⟩ := asks
      obtain ⟨other, otherKey, asking⟩ := asking
      exact commutes_of_asks plain sound scalar unlinked orderly calm asks asking
        (apart mapped other asks.mapping asking.mapping) time
    · exact (commutes_of_not_asks asking one time).symm
  · exact commutes_of_not_asks asks two time

theorem imports_commute_for_new_people :
    let evaluate : Evaluator := fun _ _ => .ok .null
    let w := logins "login" "uid"
    let named (login : String) : Record := [("uid", .string login)]
    let imported (login : String) := w.importRecord evaluate "people" (named login) ⟨2, 0⟩ false
    let start : Session := ⟨.empty, .named "ldap", [], .never⟩
    let s := (w.importAll evaluate [named "ann"] ⟨1, 0⟩ false start).2
    let numbers (t : Session) := t.store.objects.map fun o => (o.id.number, Keyed.get? "login" o.data)
    ofSpec (Pattern.among []) (loginsSpec "login" "uid") = .ok w ∧ w.mapper.Plain ∧ w.Scalar ∧
      start.store.UniqueObjects ∧ w.Reached start s ∧ s.Calm ∧
      Sync.Commutes (imported "bob") (imported "carl") s ∧
      numbers (imported "carl" (imported "bob" s).2).2 =
        [(1, some (.string "ann")), (2, some (.string "bob")), (3, some (.string "carl"))] ∧
      numbers (imported "bob" (imported "carl" s).2).2 =
        [(1, some (.string "ann")), (2, some (.string "carl")), (3, some (.string "bob"))] := by
  intro evaluate w named imported start s numbers
  have accepted : ofSpec (Pattern.among []) (loginsSpec "login" "uid") = .ok w := rfl
  have plain : w.mapper.Plain := by
    unfold Mapper.Plain
    decide
  have scalar : w.Scalar := by
    intro d member _
    rw [List.mem_singleton.1 member]
    decide
  have unrelated : ∀ d ∈ w.mapper.definitions, d.relation = none := by
    intro d member
    rw [List.mem_singleton.1 member]
  have unique : start.store.UniqueObjects := ⟨List.nodup_nil, List.forall_mem_nil _⟩
  have reached : w.Reached start s := .imported evaluate [named "ann"] ⟨1, 0⟩ false .start
  have calm : s.Calm := fun _ _ => rfl
  have bob : w.mapper.map evaluate (named "bob") = .ok [("login", .string "bob")] := by
    simp [w, logins, named, Mapper.map, Mapper.mapAll, AttributeDefinition.resolve]
    rfl
  have carl : w.mapper.map evaluate (named "carl") = .ok [("login", .string "carl")] := by
    simp [w, logins, named, Mapper.map, Mapper.mapAll, AttributeDefinition.resolve]
    rfl
  have apart : ∀ x y, w.mapper.map evaluate (named "bob") = .ok x →
      w.mapper.map evaluate (named "carl") = .ok y → ¬ SameIdentity w.identifiers x y := by
    intro x y xMapped yMapped same
    cases bob.symm.trans xMapped
    cases carl.symm.trans yMapped
    obtain ⟨_, _, ⟨⟩, ⟨⟩, agree⟩ := same "login" (List.mem_singleton_self _)
    exact absurd agree (by decide)
  exact ⟨accepted, plain, scalar, unique, reached, calm,
    imports_commute accepted plain scalar unrelated unique (List.forall_mem_nil _) reached calm
      evaluate (named "bob") (named "carl") apart ⟨2, 0⟩, by decide +kernel, by decide +kernel⟩

end Workflow

end RecordSync
