import RecordSync.Proofs.EdgePlans
import RecordSync.Proofs.Imports

set_option autoImplicit false

namespace RecordSync

theorem Store.apply_change {s t : Store} {id : ObjectId} {data : Record} {simulate : Bool}
    {seed : StatusSeed} (changed : s.change id data simulate (some seed) = .ok t) :
    s.apply simulate (.changeObject id data seed) = t := by
  simp only [apply, changed]

theorem Store.change_simulated (s : Store) (id : ObjectId) (data : Record)
    (seed : Option StatusSeed) : s.change id data true seed = .ok s := rfl

theorem Ensure.latest_ne_merge : Ensure.latest ≠ .merge := by decide

theorem Lookup.answers_of_only {α : Type} {target : SearchTarget} {found : Lookup α}
    {there : Option α} (resolvable : found ≠ .unresolvable)
    (only : (Plan.only target found).result = .ok there) : found.Answers there := by
  cases found with
  | found a => cases only; rfl
  | notFound => cases only; rfl
  | unresolvable => exact absurd rfl resolvable
  | multiple count => cases only

namespace Workflow

variable {w : Workflow} {evaluate : Evaluator} {collection : String} {record mapped key : Record}
  {time : Timestamp} {simulate : Bool} {s t : Session}

def planWrite (w : Workflow) (write : StoreWrite) (id : ObjectId) (data : Record) (simulate : Bool)
    (outcome : EdgeChanges → Outcome) (s : Store) : Plan Outcome :=
  let edges := Relations.plan w.mapper id data (s.apply simulate write)
  ⟨write :: edges.writes, edges.result.map outcome⟩

theorem planWrite_eq {write : StoreWrite} {id : ObjectId} {data : Record}
    {outcome : EdgeChanges → Outcome} {store after : Store}
    (applied : store.apply simulate write = after) :
    w.planWrite write id data simulate outcome store =
      ⟨write :: (Relations.plan w.mapper id data after).writes,
        (Relations.plan w.mapper id data after).result.map outcome⟩ := by
  subst applied
  rfl

def creation (w : Workflow) (collection : String) (mapped : Record) (time : Timestamp) :
    StoreWrite :=
  .createObject collection mapped (w.seed (.synced time))

def planOverwrite (w : Workflow) (object : CanonicalObject) (merged : Record) (status : SyncStatus)
    (simulate : Bool) (s : Store) : Plan Outcome :=
  w.planWrite (.changeObject object.id merged (w.seed status)) object.id merged simulate
    (written (!Record.agrees merged object.data)) s

def planRemove (id : ObjectId) (s : Store) : Plan Outcome :=
  ⟨Relations.clearing (s.relationsFrom id) ++ [.deleteObject id], .ok .deleted⟩

def planPlace (w : Workflow) (collection : String) (mapped : Record) (time : Timestamp)
    (simulate : Bool) (there : Option CanonicalObject) (s : Store) : Plan Outcome :=
  match w.ensure.step there with
  | .create =>
    -- A simulated creation has no object to draw edges from.
    if simulate then .write (w.creation collection mapped time) .created
    else w.planWrite (w.creation collection mapped time) ⟨s.nextObject⟩ mapped false
      (fun _ => .created) s
  | .update object =>
    w.planOverwrite object (w.mapper.merge mapped object.data) (.synced time) simulate s
  | .delete object => planRemove object.id s
  | .nothing => .done .unchanged

def planSettle (w : Workflow) (collection : String) (mapped key : Record) (time : Timestamp)
    (simulate : Bool) (s : Store) : Plan Outcome :=
  (Plan.only (.canonical collection) (s.lookup collection (keyFilter key))).andThen fun there =>
    w.planPlace collection mapped time simulate there s

theorem planSettle_of_answers {store : Store} {there : Option CanonicalObject}
    (answers : (store.lookup collection (keyFilter key)).Answers there) :
    w.planSettle collection mapped key time simulate store =
      w.planPlace collection mapped time simulate there store := by
  unfold planSettle
  cases there <;> rw [answers] <;> rfl

theorem planSettle_of_found {store : Store} {object : CanonicalObject}
    (found : store.lookup collection (keyFilter key) = .found object) :
    w.planSettle collection mapped key time simulate store =
      w.planPlace collection mapped time simulate (some object) store :=
  planSettle_of_answers (show Lookup.Answers _ (some object) from found)

theorem planSettle_of_notFound {store : Store}
    (missing : store.lookup collection (keyFilter key) = .notFound) :
    w.planSettle collection mapped key time simulate store =
      w.planPlace collection mapped time simulate none store :=
  planSettle_of_answers (show Lookup.Answers _ none from missing)

theorem planSettle_cases (w : Workflow) (collection : String) (mapped key : Record)
    (time : Timestamp) (store : Store) :
    (∃ there, (store.lookup collection (keyFilter key)).Answers there ∧ ∀ simulate,
        w.planSettle collection mapped key time simulate store =
          w.planPlace collection mapped time simulate there store) ∨
      ∃ count, ∀ simulate, w.planSettle collection mapped key time simulate store =
        .fails (.ambiguous (.canonical collection) count) := by
  cases found : store.lookup collection (keyFilter key) with
  | found object => exact Or.inl ⟨some object, rfl, fun _ => planSettle_of_found found⟩
  | notFound => exact Or.inl ⟨none, rfl, fun _ => planSettle_of_notFound found⟩
  | unresolvable => exact absurd found Store.lookup_ne_unresolvable
  | multiple count =>
    right
    unfold planSettle
    rw [found]
    exact ⟨count, fun _ => rfl⟩

theorem performs_write {α : Type} {act : Sync α} {f : α → Sync Outcome} {write : StoreWrite} {a : α}
    {id : ObjectId} {data : Record} {outcome : EdgeChanges → Outcome}
    (performs : Sync.Performs act s simulate (.write write a))
    (follows : f a = (do return outcome (← Relations.reconcile w.mapper id data simulate))) :
    Sync.Performs (act >>= f) s simulate (w.planWrite write id data simulate outcome s.store) := by
  show Sync.Performs (act >>= f) s simulate ((Plan.write write a).andThen fun _ =>
    let edges := Relations.plan w.mapper id data (s.store.apply simulate write)
    ⟨edges.writes, edges.result.map outcome⟩)
  refine performs.bind fun a' u _ same store => ?_
  cases same
  rw [follows, ← show u.store = s.store.apply simulate write from store]
  exact (Relations.performs_reconcile w.mapper id data).returning outcome

theorem performs_overwrite {object : CanonicalObject} {merged : Record} {status : SyncStatus}
    {store : Store} (changed : s.store.change object.id merged simulate (some (w.seed status)) =
      .ok store) :
    Sync.Performs (w.overwrite object merged status simulate) s simulate
      (w.planOverwrite object merged status simulate s.store) :=
  performs_write (.changeObject changed) rfl

theorem performs_remove (id : ObjectId) :
    Sync.Performs (remove id simulate) s simulate (planRemove id s.store) := by
  show Sync.Performs _ s simulate (Plan.andThen ⟨Relations.clearing (s.store.relationsFrom id),
    .ok (s.store.relationsFrom id).length⟩ fun _ => ⟨[.deleteObject id], .ok Outcome.deleted⟩)
  exact (Relations.performs_removeAll id).bind fun _ _ _ _ _ =>
    (Sync.Performs.deleteObject id).returning fun _ => Outcome.deleted

theorem performs_place {there : Option CanonicalObject}
    (stored : ∀ object, there = some object → object ∈ s.store.objects) :
    Sync.Performs (w.place collection mapped time simulate there) s simulate
      (w.planPlace collection mapped time simulate there s.store) := by
  unfold place planPlace
  cases step : w.ensure.step there with
  | nothing => exact .pure _
  | delete object => exact performs_remove object.id
  | update object =>
    obtain ⟨rfl, _⟩ := Ensure.step_eq_update step
    cases simulate with
    | true => exact performs_overwrite (Store.change_simulated _ _ _ _)
    | false =>
      obtain ⟨store, changed⟩ := Store.change_of_mem (stored object rfl)
        (w.mapper.merge mapped object.data) (some (w.seed (.synced time)))
      exact performs_overwrite changed
  | create =>
    have creates : Sync.Performs _ s simulate _ :=
      .createObject collection mapped (w.seed (.synced time))
    cases simulate with
    | true => exact creates.returning fun _ => Outcome.created
    | false => exact performs_write creates rfl

theorem performs_settle (w : Workflow) (collection : String) (mapped key : Record)
    (time : Timestamp) (simulate : Bool) (s : Session) :
    Sync.Performs (w.settle collection mapped key time simulate) s simulate
      (w.planSettle collection mapped key time simulate s.store) := by
  show Sync.Performs _ s simulate ((Plan.done (s.store.lookup collection (keyFilter key))).andThen
    fun found => (Plan.only (.canonical collection) found).andThen fun there =>
      w.planPlace collection mapped time simulate there s.store)
  refine Sync.Performs.bind (.lookupObject collection (keyFilter key) true)
    fun found u _ same store => ?_
  cases same
  refine (Sync.Performs.only _ _).bind fun there v _ only kept => ?_
  have still : v.store = s.store := by
    rw [kept, store]
    cases s.store.lookup collection (keyFilter key) <;> rfl
  rw [← still]
  refine performs_place fun object found => ?_
  subst found
  rw [still]
  exact (Store.lookup_eq_found (Lookup.answers_of_only Store.lookup_ne_unresolvable only)).1

theorem performs_import (asks : Asks w evaluate record mapped key s) (collection : String)
    (time : Timestamp) (simulate : Bool) :
    Sync.Performs (w.importRecord evaluate collection record time simulate) s simulate
      (w.planSettle collection mapped key time simulate s.store) :=
  .congr (importRecord_of_asks asks) (performs_settle w collection mapped key time simulate s)

section Superiors

def superiorsSpec (ensure : Ensure) : WorkflowSpec :=
  ⟨"people", "people", "ldap", ensure, none, ["login"],
    [("login", .object [("from", .string "uid")]),
      ("boss", .object [("from", .string "boss"), ("relation", .object
        [("collection", .string "people"), ("attribute", .string "login")])])]⟩

def superiors (ensure : Ensure) (objects : ensure ≠ .merge) : Workflow where
  name := "people"
  collection := "people"
  endpoint := "ldap"
  ensure := ensure
  condition := none
  identifiers := ["login"]
  mapper := ⟨[⟨"login", [.path "uid"], .string, .latest, true, [], none, none, none⟩,
    ⟨"boss", [.path "boss"], .string, .latest, true, [], none, none, some ⟨"people", "login"⟩⟩],
    by decide⟩
  ensure_ne_merge := objects
  resolvable := by simp [Mapper.Resolvable, Mapper.find?]

theorem ofSpec_superiors (compile : Pattern.Compiler) (ensure : Ensure) (objects : ensure ≠ .merge) :
    ofSpec compile (superiorsSpec ensure) = .ok (superiors ensure objects) := by
  unfold superiorsSpec superiors
  cases ensure with
  | merge => exact absurd rfl objects
  | latest | present | absent => rfl

def person (number : Nat) (login : String) : CanonicalObject :=
  ⟨⟨number⟩, "people", 1, [("login", .string login)], []⟩

def annUnderBob : Record := [("uid", .string "ann"), ("boss", .string "bob")]

theorem asks_superiors {ensure : Ensure} (objects : ensure ≠ .merge) {s : Session}
    (bound : s.endpoint.name = "ldap") :
    Asks (superiors ensure objects) (fun _ _ => .ok .null) annUnderBob
      [("login", .string "ann"), ("boss", .string "bob")] [("login", .string "ann")] s := by
  refine ⟨bound, rfl, ?_, rfl, rfl⟩
  simp [superiors, annUnderBob, Mapper.map, Mapper.mapAll, AttributeDefinition.resolve]
  rfl

end Superiors

section Logins

def loginsSpec (identifier source : String) : WorkflowSpec :=
  ⟨"people", "people", "ldap", .latest, none, [identifier],
    [(identifier, .object [("from", .string source)])]⟩

def logins (identifier source : String) : Workflow where
  name := "people"
  collection := "people"
  endpoint := "ldap"
  ensure := .latest
  condition := none
  identifiers := [identifier]
  mapper := ⟨[⟨identifier, [.path source], .string, .latest, true, [], none, none, none⟩],
    List.nodup_singleton _⟩
  ensure_ne_merge := Ensure.latest_ne_merge
  resolvable := by simp [Mapper.Resolvable, Mapper.find?]

end Logins

end Workflow

end RecordSync
