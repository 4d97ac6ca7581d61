import RecordSync.Proofs.Runs

set_option autoImplicit false

namespace RecordSync

namespace Workflow

variable {w : Workflow} {evaluate : Evaluator} {collection : String} {record mapped key : Record}
  {time : Timestamp} {simulate : Bool} {s t : Session} {o : Outcome}

theorem checkEndpoint_of_eq (bound : s.endpoint.name = w.endpoint) :
    w.checkEndpoint s = (.ok (), s) := by
  show (if s.endpoint.name ≠ w.endpoint then w.fail _ else pure () : Sync Unit) s = _
  rw [if_neg (not_not.2 bound)]
  rfl

theorem checkEndpoint_of_ne (other : s.endpoint.name ≠ w.endpoint) :
    w.checkEndpoint s =
      (.error (.configuration w.name (.otherEndpoint w.endpoint s.endpoint.name)), s) := by
  show (if s.endpoint.name ≠ w.endpoint then w.fail _ else pure () : Sync Unit) s = _
  rw [if_pos other]
  rfl

structure Asks (w : Workflow) (evaluate : Evaluator) (record mapped key : Record) (s : Session) :
    Prop where
  bound : s.endpoint.name = w.endpoint
  admitted : w.admits evaluate record = true
  mapping : w.mapper.map evaluate record = .ok mapped
  identified : w.identifiers.isEmpty = false
  key : identity mapped w.identifiers = .ok key

def keyFilter (key : Record) : Filter := Filter.ofRecord (Keyed.collect key)

def settle (w : Workflow) (collection : String) (mapped key : Record) (time : Timestamp)
    (simulate : Bool) : Sync Outcome := do
  let there ← Sync.only (.canonical collection)
    (← Sync.lookupObject collection (keyFilter key) true)
  w.place collection mapped time simulate there

theorem identifierFilter_of_key (identified : w.identifiers.isEmpty = false)
    (keyed : identity mapped w.identifiers = .ok key) :
    w.identifierFilter mapped = pure (keyFilter key) := by
  unfold identifierFilter
  rw [identified, keyed]
  rfl

theorem identifierFilter_eq_fail
    (none : ¬ ∃ key, w.identifiers.isEmpty = false ∧ identity mapped w.identifiers = .ok key) :
    ∃ fault, w.identifierFilter mapped = w.fail fault := by
  unfold identifierFilter
  cases empty : w.identifiers.isEmpty with
  | true => exact ⟨_, rfl⟩
  | false =>
    cases keyed : identity mapped w.identifiers with
    | error name => exact ⟨_, rfl⟩
    | ok key => exact absurd ⟨key, empty, keyed⟩ none

theorem importRecord_of_asks (asks : Asks w evaluate record mapped key s) :
    w.importRecord evaluate collection record time simulate s =
      w.settle collection mapped key time simulate s := by
  unfold importRecord
  rw [Sync.bind_of_ok (checkEndpoint_of_eq asks.bound), asks.admitted, asks.mapping]
  show (w.identifierFilter mapped >>= _) s = _
  rw [identifierFilter_of_key asks.identified asks.key]
  rfl

structure Declines (w : Workflow) (evaluate : Evaluator) (record : Record) (s : Session) :
    Prop where
  bound : s.endpoint.name = w.endpoint
  refused : w.admits evaluate record = false

theorem importRecord_of_declines (declines : Declines w evaluate record s) :
    w.importRecord evaluate collection record time simulate s = (.ok .skipped, s) := by
  unfold importRecord
  rw [Sync.bind_of_ok (checkEndpoint_of_eq declines.bound), declines.refused]
  rfl

theorem stops_of_not_asks (none : ¬ ∃ mapped key, Asks w evaluate record mapped key s) :
    Declines w evaluate record s ∨ ∃ e, (∀ target count, e ≠ .ambiguous target count) ∧
      ∀ collection time simulate t, t.endpoint.name = s.endpoint.name →
        w.importRecord evaluate collection record time simulate t = (.error e, t) := by
  by_cases bound : s.endpoint.name = w.endpoint
  · cases admitted : w.admits evaluate record with
    | false => exact Or.inl ⟨bound, admitted⟩
    | true =>
      right
      have passes (collection : String) (time : Timestamp) (simulate : Bool) (t : Session)
          (same : t.endpoint.name = s.endpoint.name) :
          w.importRecord evaluate collection record time simulate t = (do
            let mapped ← Sync.mapping (w.mapper.map evaluate record)
            let filter ← w.identifierFilter mapped
            let there ← Sync.only (.canonical collection)
              (← Sync.lookupObject collection filter true)
            w.place collection mapped time simulate there : Sync Outcome) t := by
        unfold importRecord
        rw [Sync.bind_of_ok (checkEndpoint_of_eq (same.trans bound)), admitted]
        rfl
      cases mapping : w.mapper.map evaluate record with
      | error e =>
        refine ⟨.mapping e, fun _ _ => nofun, fun _ _ _ t same => ?_⟩
        rw [passes _ _ _ t same, mapping]
        rfl
      | ok mapped =>
        have unkeyed : ¬ ∃ key, w.identifiers.isEmpty = false ∧
            identity mapped w.identifiers = .ok key :=
          fun ⟨key, identified, keyed⟩ =>
            none ⟨mapped, key, bound, admitted, mapping, identified, keyed⟩
        obtain ⟨fault, failed⟩ := identifierFilter_eq_fail unkeyed
        refine ⟨.configuration w.name fault, fun _ _ => nofun, fun _ _ _ t same => ?_⟩
        rw [passes _ _ _ t same, mapping]
        show (w.identifierFilter mapped >>= _) t = _
        rw [failed]
        rfl
  · right
    refine ⟨.configuration w.name (.otherEndpoint w.endpoint s.endpoint.name), fun _ _ => nofun,
      fun _ _ _ t same => ?_⟩
    rw [← same] at bound ⊢
    unfold importRecord
    exact Sync.bind_of_error (checkEndpoint_of_ne bound)

theorem importRecord_of_not_asks (none : ¬ ∃ mapped key, Asks w evaluate record mapped key s) :
    Declines w evaluate record s ∨ ∃ e, (∀ target count, e ≠ .ambiguous target count) ∧
      w.importRecord evaluate collection record time simulate s = (.error e, s) := by
  rcases stops_of_not_asks none with declines | ⟨e, other, stopped⟩
  · exact Or.inl declines
  · exact Or.inr ⟨e, other, stopped _ _ _ s rfl⟩

theorem exists_asks (ended : (w.importRecord evaluate collection record time simulate s).1 = .ok o)
    (other : o ≠ .skipped) : ∃ mapped key, Asks w evaluate record mapped key s := by
  by_contra none
  rcases importRecord_of_not_asks none with declines | ⟨e, _, failed⟩
  · rw [importRecord_of_declines declines] at ended
    exact other (Except.ok.inj ended).symm
  · rw [failed] at ended
    cases ended

def searched (s : Session) (collection : String) (key : Record) : Session :=
  s.logged (.store (.lookup collection (keyFilter key) true))

theorem settle_eq_ok (run : w.settle collection mapped key time simulate s = (.ok o, t)) :
    s.faults.Answered ∧ ∃ there, Lookup.Answers (s.store.lookup collection (keyFilter key)) there ∧
      w.place collection mapped time simulate there (searched s collection key) = (.ok o, t) := by
  obtain ⟨found, u, looked, run⟩ := Sync.bind_eq_ok run
  obtain ⟨rfl, rfl⟩ := Sync.lookupObject_eq_ok looked
  obtain ⟨there, v, only, run⟩ := Sync.bind_eq_ok run
  obtain ⟨rfl, answer⟩ := Sync.only_eq_ok only
  refine ⟨Sync.answered_of_storeCall looked, there, ?_, run⟩
  cases there with
  | some object => exact answer
  | none => exact answer.resolve_right Store.lookup_ne_unresolvable

theorem settle_cases (w : Workflow) (collection : String) (mapped key : Record) (time : Timestamp)
    (simulate : Bool) (s : Session) :
    (∃ e, w.settle collection mapped key time simulate s =
        (.error (.store e), searched s collection key)) ∨
      (∃ count, s.store.lookup collection (keyFilter key) = .multiple count) ∨
      ∃ there, (s.store.lookup collection (keyFilter key)).Answers there ∧
        w.settle collection mapped key time simulate s =
          w.place collection mapped time simulate there (searched s collection key) := by
  cases fault : s.faults.store s.calls.length (.lookup collection (keyFilter key) true) with
  | some e =>
    left
    exact ⟨e, Sync.bind_of_error (Sync.storeCall_of_some fault)⟩
  | none =>
    right
    have looked : Sync.lookupObject collection (keyFilter key) true s =
        (.ok (s.store.lookup collection (keyFilter key)), searched s collection key) :=
      Sync.storeCall_of_none fault
    unfold settle
    rw [Sync.bind_of_ok looked]
    cases found : s.store.lookup collection (keyFilter key) with
    | found object => exact Or.inr ⟨some object, rfl, rfl⟩
    | notFound => exact Or.inr ⟨none, rfl, rfl⟩
    | unresolvable => exact absurd found Store.lookup_ne_unresolvable
    | multiple count => exact Or.inl ⟨count, rfl⟩

theorem settle_of_calm (calm : s.Calm) {there : Option CanonicalObject}
    (answer : Lookup.Answers (s.store.lookup collection (keyFilter key)) there) :
    w.settle collection mapped key time simulate s =
      w.place collection mapped time simulate there (searched s collection key) := by
  unfold settle
  rw [Sync.bind_of_ok (Sync.lookupObject_of_calm calm _ _ _)]
  cases there with
  | some object =>
    rw [show s.store.lookup collection (keyFilter key) = .found object from answer]
    rfl
  | none =>
    rw [show s.store.lookup collection (keyFilter key) = .notFound from answer]
    rfl

end Workflow

end RecordSync
