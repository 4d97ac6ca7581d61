import RecordSync.Proofs.DryRuns
import RecordSync.Proofs.ImportPlans

set_option autoImplicit false

namespace RecordSync

namespace Session

-- Of the calls made in between, these are the ones that write a row.
def Emits (s : Session) (rows : List Call) (t : Session) : Prop :=
  ∃ log, t.calls = s.calls ++ log ∧ log.filter writesRows = rows

theorem Emits.trans {s t u : Session} {rows more : List Call} (first : s.Emits rows t)
    (second : t.Emits more u) : s.Emits (rows ++ more) u := by
  obtain ⟨before, beforeCalls, rfl⟩ := first
  obtain ⟨after, afterCalls, rfl⟩ := second
  refine ⟨before ++ after, ?_, List.filter_append _ _⟩
  rw [afterCalls, beforeCalls, List.append_assoc]

theorem KeepsRows.emits {s t : Session} (keeps : s.KeepsRows t) : s.Emits [] t := by
  obtain ⟨log, calls, reads⟩ := keeps.calls
  refine ⟨log, calls, List.filter_eq_nil_iff.2 fun call member => ?_⟩
  rw [reads call member]
  exact Bool.false_ne_true

end Session

namespace Sync

variable {α : Type} {s t : Session}

-- One call on the endpoint. Whatever it comes to, it leaves the store.
def CallsEndpoint (call : EndpointCall) (act : Sync α) : Prop :=
  ∀ s, (act s).2.store = s.store ∧ (act s).2.calls = s.calls ++ [.endpoint call]

theorem callsEndpoint {call : EndpointCall} {f : Unit → Sync α}
    (quiet : ∀ u, (f () u).2.store = u.store ∧ (f () u).2.calls = u.calls) :
    CallsEndpoint call (endpointCall call >>= f) := by
  intro s
  cases fault : s.faults.endpoint s.calls.length call with
  | some e =>
    rw [endpointCall_of_some fault]
    exact ⟨rfl, rfl⟩
  | none =>
    rw [endpointCall_of_none fault]
    exact quiet _

theorem callsEndpoint_createRow (record : Record) :
    CallsEndpoint (.create record) (createRow record) := by
  refine callsEndpoint fun u => ?_
  rw [get_bind]
  cases u.endpoint.create record <;> exact ⟨rfl, rfl⟩

theorem callsEndpoint_changeRow (delta : Delta) (record existing : Record) :
    CallsEndpoint (.change delta record existing) (changeRow delta record existing) := by
  refine callsEndpoint fun u => ?_
  rw [get_bind]
  cases u.endpoint.change delta existing <;> exact ⟨rfl, rfl⟩

theorem callsEndpoint_deleteRow (record existing : Record) :
    CallsEndpoint (.delete record existing) (deleteRow record existing) :=
  callsEndpoint fun _ => ⟨rfl, rfl⟩

-- However the run ends, one of its calls at most wrote a row. If it failed the store is as before,
-- and if not the rows written and the session fit the outcome.
def Writes (fits : Outcome → List Call → Session → Prop) (act : Sync Outcome) (s : Session) : Prop :=
  ∃ rows, rows.length ≤ 1 ∧ s.Emits rows (act s).2 ∧
    match (act s).1 with
    | .error _ => (act s).2.store = s.store
    | .ok o => fits o rows (act s).2

variable {fits : Outcome → List Call → Session → Prop} {o : Outcome}

theorem Writes.imp {fits' : Outcome → List Call → Session → Prop} {act : Sync Outcome}
    (writes : Writes fits act s) (weaker : ∀ o rows t, fits o rows t → fits' o rows t) :
    Writes fits' act s := by
  obtain ⟨rows, few, emits, ends⟩ := writes
  refine ⟨rows, few, emits, ?_⟩
  cases result : (act s).1 with
  | error e =>
    rw [result] at ends
    exact ends
  | ok o =>
    rw [result] at ends
    exact weaker o rows _ ends

theorem writes_pure (fit : fits o [] s) : Writes fits (pure o) s :=
  ⟨[], Nat.zero_le _, (Session.Unmoved.refl s).toKeepsRows.emits, fit⟩

theorem writes_bind {x : Sync α} {f : α → Sync Outcome} (reads : ReadsOnly x)
    (rest : ∀ a u, x s = (.ok a, u) → s.Unmoved u → Writes fits (f a) u) :
    Writes fits (x >>= f) s := by
  rcases run : x s with ⟨e | a, u⟩ <;> have unmoved := reads.unmoved run
  · refine ⟨[], Nat.zero_le _, ?_, ?_⟩ <;> rw [bind_of_error run]
    · exact unmoved.toKeepsRows.emits
    · exact unmoved.store
  · obtain ⟨rows, few, emits, ends⟩ := rest a u run unmoved
    refine ⟨rows, few, ?_, ?_⟩ <;> rw [bind_of_ok run]
    · exact unmoved.toKeepsRows.emits.trans emits
    · rw [← unmoved.store]
      exact ends

end Sync

namespace Workflow

variable {w : Workflow} {evaluate : Evaluator} {object : CanonicalObject} {mapped : Record}
  {there : Option Record} {time : Timestamp} {s t : Session} {o : Outcome} {rows : List Call}
  {result : String}

-- What an export takes for the object's row. It looks at no row where the endpoint is always
-- written anew or the mapped record gives no key, and a filter that the endpoint cannot evaluate
-- finds none.
inductive Finds (w : Workflow) (mapped : Record) (e : Endpoint) : Option Record → Prop
  | unasked (blind : e.flushRequired = true ∨ w.rowFilter? mapped = none) : Finds w mapped e none
  | missing {key : Record} (looks : e.flushRequired = false)
    (keyed : w.rowFilter? mapped = some key)
    (answer : e.lookup key = .notFound ∨ e.lookup key = .unresolvable) : Finds w mapped e none
  | found {key row : Record} (looks : e.flushRequired = false)
    (keyed : w.rowFilter? mapped = some key) (answer : e.lookup key = .found row) :
    Finds w mapped e (some row)

theorem finds_counterpart? (run : w.counterpart? mapped s = (.ok there, t)) :
    Finds w mapped s.endpoint there := by
  unfold counterpart? at run
  rw [Sync.get_bind] at run
  cases flush : s.endpoint.flushRequired with
  | true =>
    rw [flush] at run
    cases run
    exact .unasked (Or.inl flush)
  | false =>
    rw [flush] at run
    cases keyed : w.rowFilter? mapped with
    | none =>
      rw [keyed] at run
      cases run
      exact .unasked (Or.inr keyed)
    | some key =>
      rw [keyed] at run
      obtain ⟨found, u, looked, run⟩ := Sync.bind_eq_ok run
      obtain ⟨rfl, rfl⟩ := Sync.lookupRow_eq_ok looked
      obtain ⟨rfl, answer⟩ := Sync.only_eq_ok run
      cases there with
      | none => exact .missing flush keyed answer
      | some row => exact .found flush keyed answer

def Stamps (w : Workflow) (object : CanonicalObject) (time : Timestamp) (result : String)
    (id : Option String) (s t : Store) : Prop :=
  s.Rewrites object object.data (w.seed ⟨time, false, some result, id⟩) t

def previous (w : Workflow) (object : CanonicalObject) : Option String :=
  (object.statusFor w.endpoint).bind SyncStatus.id

-- How a delivery ends well: for each row of the resolution table its outcome, the row that it wrote
-- and what it recorded.
inductive Delivers (w : Workflow) (object : CanonicalObject) (mapped : Record) (time : Timestamp)
    (s : Store) (e : Endpoint) : Option Record → Outcome → List Call → Session → Prop
  | idle {there : Option Record} {t : Session} (nothing : w.ensure.step there = .nothing)
    (same : t.store = s) : Delivers w object mapped time s e there .unchanged [] t
  | unchanged {row : Record} {t : Session} (latest : w.ensure = .latest)
    (agrees : w.mapper.diff mapped row = [])
    (stamps : w.Stamps object time "unchanged" (w.previous object) s t.store) :
    Delivers w object mapped time s e (some row) .unchanged [] t
  | created {uid : Option Uid} {t : Session} (wanted : w.ensure ≠ .absent)
    (answer : e.create mapped = .ok (uid, t.endpoint))
    (stamps : w.Stamps object time "created" (identifierAfter uid (w.previous object)) s t.store) :
    Delivers w object mapped time s e none .created [.endpoint (.create mapped)] t
  | updated {row : Record} {delta : Delta} {uid : Option Uid} {t : Session}
    (latest : w.ensure = .latest) (differs : w.mapper.diff mapped row ≠ [])
    (native : delta = e.nativeDelta (w.mapper.diff mapped row))
    (answer : e.change delta row = .ok (uid, t.endpoint))
    (stamps : w.Stamps object time "updated" (identifierAfter uid (w.previous object)) s t.store) :
    Delivers w object mapped time s e (some row) .updated [.endpoint (.change delta mapped row)] t
  | deleted {row : Record} {t : Session} (unwanted : w.ensure = .absent)
    (answer : t.endpoint = e.delete row)
    (stamps : w.Stamps object time "deleted" none s t.store) :
    Delivers w object mapped time s e (some row) .deleted [.endpoint (.delete mapped row)] t

section Writes

variable (unique : s.store.UniqueObjects) (stored : object ∈ s.store.objects)
  {fits : Outcome → List Call → Session → Prop}

include unique stored

theorem stamp_ends (w : Workflow) (time : Timestamp) (result : String) (id : Option String) :
    s.KeepsRows (w.stamp object time result id false s).2 ∧
      ((∃ e, (w.stamp object time result id false s).1 = .error e) ∧
          (w.stamp object time result id false s).2.store = s.store ∨
        (w.stamp object time result id false s).1 = .ok () ∧
          w.Stamps object time result id s.store
            (w.stamp object time result id false s).2.store) := by
  have logged (store : Store) : s.KeepsRows { s.logged (.store (.change object.id object.data false
      (some (w.seed ⟨time, false, some result, id⟩)))) with store } :=
    ⟨⟨rfl, rfl⟩, [_], rfl, by simp [Session.writesRows]⟩
  unfold stamp
  cases fault : s.faults.store s.calls.length (.change object.id object.data false
      (some (w.seed ⟨time, false, some result, id⟩))) with
  | some e =>
    unfold Sync.changeObject
    rw [Sync.storeCall_of_some fault]
    exact ⟨logged s.store, Or.inl ⟨⟨_, rfl⟩, rfl⟩⟩
  | none =>
    -- The object is there, so the store does not refuse the write.
    obtain ⟨store, changed⟩ := Store.change_of_mem stored object.data
      (some (w.seed ⟨time, false, some result, id⟩))
    rw [Sync.changeObject_of_none fault, changed]
    exact ⟨logged store, Or.inr ⟨rfl, unique.rewrites stored changed⟩⟩

theorem writes_stamp {α : Type} {act : Sync α} {id : α → Option String} {a : α} {u : Session}
    (run : act s = (.ok a, u)) (emits : s.Emits rows u) (few : rows.length ≤ 1)
    (same : u.store = s.store)
    (fit : ∀ t, t.endpoint = u.endpoint → w.Stamps object time result (id a) s.store t.store →
      fits o rows t) :
    Sync.Writes fits (do let a ← act; w.stamp object time result (id a) false; return o) s := by
  rw [← same] at unique stored
  obtain ⟨keeps, ends⟩ := stamp_ends unique stored w time result (id a)
  have all := List.append_nil rows ▸ emits.trans keeps.emits
  refine ⟨rows, few, ?_⟩
  rw [Sync.bind_of_ok run]
  rcases stamp : w.stamp object time result (id a) false u with ⟨r, t⟩
  rw [stamp] at keeps ends all
  rcases ends with ⟨⟨e, rfl⟩, left⟩ | ⟨rfl, stamps⟩
  · rw [Sync.bind_of_error stamp]
    exact ⟨all, left.trans same⟩
  · rw [Sync.bind_of_ok stamp]
    exact ⟨all, fit t keeps.endpoint (same ▸ stamps)⟩

theorem writes_call {α : Type} {act : Sync α} {call : EndpointCall} {id : α → Option String}
    (calls : Sync.CallsEndpoint call act) (writes : Session.writesRows (.endpoint call) = true)
    (fit : ∀ a u t, act s = (.ok a, u) → t.endpoint = u.endpoint →
      w.Stamps object time result (id a) s.store t.store → fits o [.endpoint call] t) :
    Sync.Writes fits (do let a ← act; w.stamp object time result (id a) false; return o) s := by
  obtain ⟨same, logged⟩ := calls s
  have emits : s.Emits [.endpoint call] (act s).2 := ⟨[_], logged, by simp [writes]⟩
  rcases run : act s with ⟨e | a, u⟩ <;> rw [run] at same emits
  · refine ⟨[.endpoint call], Nat.le_refl 1, ?_⟩
    rw [Sync.bind_of_error run]
    exact ⟨emits, same⟩
  · exact writes_stamp unique stored run emits (Nat.le_refl 1) same fun t => fit a u t run

theorem writes_deliver (w : Workflow) (mapped : Record) (time : Timestamp)
    (there : Option Record) :
    Sync.Writes (Delivers w object mapped time s.store s.endpoint there)
      (w.deliver object mapped time false there) s := by
  unfold deliver
  dsimp only
  cases step : w.ensure.step there with
  | nothing => exact Sync.writes_pure (.idle step rfl)
  | create =>
    obtain ⟨rfl, wanted⟩ := Ensure.step_eq_create step
    refine writes_call unique stored (Sync.callsEndpoint_createRow mapped) rfl
      fun uid u t run endpoint stamps => ?_
    obtain ⟨row, _, _⟩ := Sync.createRow_eq_ok run
    exact .created wanted (endpoint ▸ row) stamps
  | update row =>
    obtain ⟨rfl, latest⟩ := Ensure.step_eq_update step
    dsimp only
    by_cases agrees : w.mapper.diff mapped row = []
    · rw [if_pos (by simpa using agrees)]
      -- No row is written here: the stamp stands behind a call that does nothing.
      show Sync.Writes _ (do
        let _ ← (pure () : Sync Unit)
        w.stamp object time "unchanged" (w.previous object) false
        return .unchanged) s
      exact writes_stamp unique stored rfl (Session.Unmoved.refl s).toKeepsRows.emits
        (Nat.zero_le _) rfl fun t _ stamps => .unchanged latest agrees stamps
    · rw [if_neg (by simpa using agrees)]
      refine Sync.writes_bind (Sync.readsOnly_nativeDelta _) fun delta u run unmoved => ?_
      obtain ⟨native, _⟩ := Sync.nativeDelta_eq_ok run
      rw [← unmoved.store] at unique stored ⊢
      refine writes_call unique stored (Sync.callsEndpoint_changeRow delta mapped row) rfl
        fun uid v t run endpoint stamps => ?_
      obtain ⟨changed, _, _⟩ := Sync.changeRow_eq_ok run
      rw [← unmoved.endpoint] at native ⊢
      exact .updated latest agrees native (endpoint ▸ changed) stamps
  | delete row =>
    obtain ⟨rfl, unwanted⟩ := Ensure.step_eq_delete step
    refine writes_call unique stored (Sync.callsEndpoint_deleteRow mapped row) rfl
      fun _ u t run endpoint stamps => ?_
    obtain ⟨deleted, _, _⟩ := Sync.deleteRow_eq_ok run
    exact .deleted unwanted (endpoint.trans deleted) stamps

end Writes

inductive Exports (w : Workflow) (evaluate : Evaluator) (object : CanonicalObject)
    (time : Timestamp) (s : Session) : Outcome → List Call → Session → Prop
  | skipped {t : Session} (refused : (w.admitsExport evaluate object s).1 = .ok false)
    (same : t.store = s.store) : Exports w evaluate object time s .skipped [] t
  | delivered {mapped : Record} {there : Option Record} {o : Outcome} {rows : List Call}
    {t : Session} (admitted : (w.admitsExport evaluate object s).1 = .ok true)
    (mapping : w.mapper.map evaluate object.data = .ok mapped)
    (finds : w.Finds mapped s.endpoint there)
    (delivers : w.Delivers object mapped time s.store s.endpoint there o rows t) :
    Exports w evaluate object time s o rows t

theorem writes_exportObject (unique : s.store.UniqueObjects) (stored : object ∈ s.store.objects)
    (w : Workflow) (evaluate : Evaluator) (time : Timestamp) :
    Sync.Writes (Exports w evaluate object time s) (w.exportObject evaluate object time false) s := by
  unfold exportObject
  refine Sync.writes_bind w.readsOnly_checkEndpoint fun _ u checked _ => ?_
  -- The condition is evaluated in the session that the export starts from.
  obtain rfl : u = s := by
    by_cases bound : s.endpoint.name = w.endpoint
    · exact congrArg Prod.snd (checked.symm.trans (checkEndpoint_of_eq bound))
    · cases checked.symm.trans (checkEndpoint_of_ne bound)
  refine Sync.writes_bind (readsOnly_admitsExport w evaluate object) fun passed v run read => ?_
  have admitted : (w.admitsExport evaluate object u).1 = .ok passed := congrArg Prod.fst run
  cases passed with
  | false => exact Sync.writes_pure (.skipped admitted read.store)
  | true =>
    refine Sync.writes_bind (Sync.readsOnly_mapping _) fun mapped x resolved _ => ?_
    obtain ⟨mapping, rfl⟩ := Sync.mapping_eq_ok resolved
    refine Sync.writes_bind (w.readsOnly_counterpart? mapped) fun there y found looked => ?_
    have finds := finds_counterpart? found
    have unmoved := read.trans looked
    rw [← unmoved.store] at unique stored
    refine (writes_deliver unique stored w mapped time there).imp fun o rows t delivers => ?_
    rw [unmoved.store, unmoved.endpoint] at delivers
    exact .delivered admitted mapping (read.endpoint ▸ finds) delivers

end Workflow

-- Among the calls of an export the outcome stands for the only one that writes a row.
def Outcome.Wrote : Outcome → List Call → Prop
  | .skipped, [] | .unchanged, [] | .created, [.endpoint (.create _)]
  | .updated, [.endpoint (.change _ _ _)] | .deleted, [.endpoint (.delete _ _)] => True
  | _, _ => False

namespace Workflow

theorem Exports.wrote {w : Workflow} {evaluate : Evaluator} {object : CanonicalObject}
    {time : Timestamp} {s t : Session} {o : Outcome} {rows : List Call}
    (exports : Exports w evaluate object time s o rows t) : o.Wrote rows := by
  cases exports with
  | skipped => trivial
  | delivered _ _ _ delivers => cases delivers <;> trivial

theorem Exports.rewrites {w : Workflow} {evaluate : Evaluator} {object : CanonicalObject}
    {time : Timestamp} {s t : Session} {o : Outcome} {rows : List Call}
    (exports : Exports w evaluate object time s o rows t) :
    t.store = s.store ∨ ∃ seed, s.store.Rewrites object object.data seed t.store := by
  cases exports with
  | skipped _ same => exact Or.inl same
  | delivered _ _ _ delivers =>
    cases delivers with
    | idle _ same => exact Or.inl same
    | unchanged _ _ stamps | created _ _ stamps | updated _ _ _ _ stamps | deleted _ _ stamps =>
      exact Or.inr ⟨_, stamps⟩

-- An export asks for one write of a row at most, and which one its outcome tells. It changes no
-- data, no collection and no edge: if it fails the store is as before, and if not then only the
-- exported object differs, by its version and by what it records for the endpoint.
theorem export_writes_one_row_and_stamps (w : Workflow) (evaluate : Evaluator)
    (object : CanonicalObject) (time : Timestamp) {s t : Session}
    {r : Except WorkflowError Outcome} (unique : s.store.UniqueObjects)
    (stored : object ∈ s.store.objects)
    (run : w.exportObject evaluate object time false s = (r, t)) :
    t.store.contents = s.store.contents ∧ t.store.relations = s.store.relations ∧
      ∃ log, t.calls = s.calls ++ log ∧ (log.filter Session.writesRows).length ≤ 1 ∧
        match r with
        | .error _ => t.store = s.store
        | .ok o => o.Wrote (log.filter Session.writesRows) ∧
            Exports w evaluate object time s o (log.filter Session.writesRows) t := by
  obtain ⟨_, few, ⟨log, calls, rfl⟩, ends⟩ := writes_exportObject unique stored w evaluate time
  rw [run] at calls ends
  -- Failed or not, the export rewrote the object with its own data at most.
  have kept : t.store = s.store ∨ ∃ seed, s.store.Rewrites object object.data seed t.store := by
    cases r with
    | error e => exact Or.inl ends
    | ok o => exact Exports.rewrites ends
  have same : t.store.contents = s.store.contents ∧ t.store.relations = s.store.relations := by
    rcases kept with same | ⟨seed, rewrites⟩
    · rw [same]
      exact ⟨rfl, rfl⟩
    · refine ⟨rewrites.contents_eq unique stored, ?_⟩
      obtain ⟨y, _, after⟩ := rewrites
      rw [after]
  refine ⟨same.1, same.2, log, calls, few, ?_⟩
  cases r with
  | error e => exact ends
  | ok o => exact ⟨ends.wrote, ends⟩

theorem export_writes_one_row_and_stamps_for_new_mail :
    let spec : WorkflowSpec := ⟨"people", "people", "ldap", .latest, none, ["login"],
      [("login", .object [("from", .string "login")]),
        ("mail", .object [("from", .string "mail")])]⟩
    let evaluate : Evaluator := fun _ _ => .ok .null
    let ann : CanonicalObject :=
      ⟨⟨1⟩, "people", 4, [("login", .string "ann"), ("mail", .string "a@x")], []⟩
    let row : Record := [("login", .string "ann"), ("mail", .string "ann@x")]
    let s : Session := ⟨⟨[ann, person 2 "bob"], [⟨⟨1⟩, ⟨1⟩, ⟨2⟩, "boss"⟩], 3, 2⟩,
      { Endpoint.named "ldap" with rows := [row] }, [], .never⟩
    ∃ w t, ofSpec (Pattern.among []) spec = .ok w ∧ s.store.UniqueObjects ∧ ann ∈ s.store.objects ∧
      w.exportObject evaluate ann ⟨1, 0⟩ false s = (.ok .updated, t) ∧
      t.store.contents = s.store.contents ∧ t.store.relations = s.store.relations ∧
      ∃ log, t.calls = s.calls ++ log ∧ (log.filter Session.writesRows).length ≤ 1 ∧
        Outcome.updated.Wrote (log.filter Session.writesRows) ∧
        Exports w evaluate ann ⟨1, 0⟩ s .updated (log.filter Session.writesRows) t := by
  intro spec evaluate ann row s
  let w : Workflow := {
    name := "people"
    collection := "people"
    endpoint := "ldap"
    ensure := .latest
    condition := none
    identifiers := ["login"]
    mapper := ⟨[⟨"login", [.path "login"], .string, .latest, true, [], none, none, none⟩,
      ⟨"mail", [.path "mail"], .string, .latest, true, [], none, none, none⟩], by decide⟩
    ensure_ne_merge := by decide
    resolvable := by simp [Mapper.Resolvable, Mapper.find?] }
  have accepted : ofSpec (Pattern.among []) spec = .ok w := by
    dsimp only [spec, w]
    rfl
  have mapping : w.mapper.map evaluate ann.data = .ok ann.data := by
    simp [w, ann, Mapper.map, Mapper.mapAll, AttributeDefinition.resolve]
    rfl
  have run : ∃ t, w.exportObject evaluate ann ⟨1, 0⟩ false s = (.ok .updated, t) := by
    rw [exportObject_of_admitted rfl rfl mapping rfl]
    exact ⟨_, rfl⟩
  obtain ⟨t, run⟩ := run
  have unique : s.store.UniqueObjects := ⟨by decide, by decide⟩
  have stored : ann ∈ s.store.objects := List.mem_cons_self
  exact ⟨w, t, accepted, unique, stored, run,
    export_writes_one_row_and_stamps w evaluate ann _ unique stored run⟩

end Workflow

end RecordSync
