import RecordSync.Proofs.ObjectWrites
import RecordSync.Proofs.SingleEdges

set_option autoImplicit false

namespace RecordSync

def CanonicalObject.recorded (o : CanonicalObject) (endpoint : String) : Option String :=
  (o.statusFor endpoint).bind SyncStatus.id

namespace Store

variable {s t : Store} {x y : CanonicalObject}

theorem Rewrites.succeeds {data : Record} {seed : StatusSeed} (rewrites : s.Rewrites x data seed t) :
    s.Succeeds t := by
  obtain ⟨z, rewritten, rfl⟩ := rewrites
  have same (o : CanonicalObject) : (if o.id = x.id then z else o).id = o.id := by
    split
    · rename_i hit
      exact rewritten.id.trans hit.symm
    · rfl
  refine ⟨fun unique => ⟨?_, fun y member => ?_⟩, Nat.le_refl _, fun y member _ => ?_⟩
  · rw [List.map_map]
    exact (List.map_congr_left fun o _ => same o) ▸ unique.ids
  · obtain ⟨o, there, rfl⟩ := List.mem_map.1 member
    rw [same]
    exact unique.below o there
  · obtain ⟨o, there, rfl⟩ := List.mem_map.1 member
    exact ⟨o, there, (same o).symm⟩

theorem SameObjects.eq (same : s.SameObjects t) (unique : s.UniqueObjects) (before : x ∈ s.objects)
    (after : y ∈ t.objects) (id : y.id = x.id) : y = x :=
  unique.eq_of_id_eq (same.objects ▸ after) before id

theorem SameObjects.treated {write : StoreWrite} (same : (s.apply false write).SameObjects t)
    (unique : s.UniqueObjects) (before : x ∈ s.objects) (after : y ∈ t.objects)
    (id : y.id = x.id) : write.treat x = some y := by
  obtain ⟨o, there, treated⟩ :=
    exists_treated (same.objects ▸ after) (id ▸ unique.below x before)
  have found : o = x :=
    unique.eq_of_id_eq there before ((StoreWrite.id_of_treat treated).symm.trans id)
  exact found ▸ treated

end Store

namespace Workflow

variable {w : Workflow} {evaluate : Evaluator} {collection : String} {mapped : Record}
  {time : Timestamp} {x y : CanonicalObject} {write : StoreWrite}

def Rewrote (w : Workflow) (x y : CanonicalObject) : Prop :=
  w.ensure = .latest ∧ ∃ data status, status.id = none ∧
    y = Store.overwritten x data (some (w.seed status))

theorem rewrote_placing {there : Option CanonicalObject}
    (placed : w.placing collection mapped time there = some write)
    (treated : write.treat x = some y) : y = x ∨ w.Rewrote x y := by
  unfold placing at placed
  cases step : w.ensure.step there with
  | nothing =>
    rw [step] at placed
    cases placed
  | create =>
    rw [step] at placed
    cases placed
    cases treated
    exact Or.inl rfl
  | delete z =>
    rw [step] at placed
    cases placed
    exact Or.inl (StoreWrite.eq_of_treat_delete treated)
  | update z =>
    obtain ⟨_, latest⟩ := Ensure.step_eq_update step
    rw [step] at placed
    cases placed
    cases treated
    split
    · exact Or.inr ⟨latest, _, _, rfl, rfl⟩
    · exact Or.inl rfl

theorem rewrote_sweeping {object : CanonicalObject}
    (swept : w.sweeping evaluate object time = some write) (treated : write.treat x = some y) :
    y = x ∨ w.Rewrote x y := by
  unfold sweeping at swept
  split at swept
  · cases swept
  · cases ensure : w.ensure <;> rw [ensure] at swept <;> cases swept
    · exact Or.inl (StoreWrite.eq_of_treat_delete treated)
    · cases treated
      split
      · exact Or.inr ⟨ensure, _, _, rfl, rfl⟩
      · exact Or.inl rfl

end Workflow

namespace Task

def Current (s : Store) : Task → Prop
  | .imports _ _ _ _ _ => True
  | .exports _ _ object _ | .cleansUp _ _ object _ => object ∈ s.objects

-- What makes an object lose its identifier: its row is deleted at the endpoint, or it is rewritten
-- from the endpoint's side.
def Forgets (endpoint : String) (result : Except WorkflowError Outcome) (x y : CanonicalObject) :
    Task → Prop
  | .imports w _ _ _ _ | .cleansUp w _ _ _ =>
    w.endpoint = endpoint ∧ w.ensure = .latest ∧ y ≠ x
  | .exports w _ object _ => w.endpoint = endpoint ∧ object.id = x.id ∧ result = .ok .deleted

section Step

variable {endpoint : String} {s : Session} {x y : CanonicalObject}
  (unique : s.store.UniqueObjects) (before : x ∈ s.store.objects) (id : y.id = x.id)
  (recorded : (x.recorded endpoint).isSome)

theorem isSome_iff_of_rewrote {w : Workflow} (rewrote : y = x ∨ w.Rewrote x y)
    (recorded : (x.recorded endpoint).isSome) :
    (y.recorded endpoint).isSome ↔ ¬ (w.endpoint = endpoint ∧ w.ensure = .latest ∧ y ≠ x) := by
  rcases rewrote with rfl | ⟨latest, data, status, none, rfl⟩
  · exact iff_of_true recorded fun forgets => forgets.2.2 rfl
  have newer : Store.overwritten x data (some (w.seed status)) ≠ x := fun same =>
    Nat.succ_ne_self x.version (congrArg CanonicalObject.version same)
  by_cases mine : endpoint = w.endpoint
  · have lost : (Store.overwritten x data (some (w.seed status))).recorded endpoint = .none := by
      simp [CanonicalObject.recorded, CanonicalObject.statusFor_overwritten, Workflow.seed, mine,
        none]
    rw [lost]
    exact iff_of_false Bool.false_ne_true (not_not.2 ⟨mine.symm, latest, newer⟩)
  · have kept : (Store.overwritten x data (some (w.seed status))).recorded endpoint =
        x.recorded endpoint := by
      simp [CanonicalObject.recorded, CanonicalObject.statusFor_overwritten, Workflow.seed, mine]
    rw [kept]
    exact iff_of_true recorded fun forgets => mine forgets.1.symm

theorem isSome_identifierAfter {previous : Option String} (known : previous.isSome)
    (uid : Option Uid) : (Workflow.identifierAfter uid previous).isSome := by
  unfold Workflow.identifierAfter
  cases uid with
  | none => exact known
  | some uid => rfl

include unique before id recorded

theorem recorded_stamps {w : Workflow} {object : CanonicalObject} {time : Timestamp}
    {result : String} {given : Option String} {t : Store} (stored : object ∈ s.store.objects)
    (stamps : w.Stamps object time result given s.store t) (after : y ∈ t.objects) :
    (y.recorded endpoint).isSome ↔
      (w.endpoint = endpoint ∧ object.id = x.id → given.isSome) := by
  obtain ⟨z, rewritten, rfl⟩ := stamps
  obtain ⟨o, there, rfl⟩ := List.mem_map.1 after
  by_cases hit : o.id = object.id
  · obtain rfl := unique.eq_of_id_eq there stored hit
    rw [if_pos rfl, rewritten.id] at id
    obtain rfl := unique.eq_of_id_eq there before id
    rw [if_pos rfl]
    by_cases mine : endpoint = w.endpoint
    · subst mine
      have written : z.recorded w.endpoint = given :=
        congrArg (Option.bind · SyncStatus.id) rewritten.status
      simp [written]
    · have kept : z.recorded endpoint = o.recorded endpoint := by
        unfold CanonicalObject.recorded
        rw [rewritten.others endpoint mine]
      rw [kept]
      exact iff_of_true recorded fun both => absurd both.1.symm mine
  · rw [if_neg hit] at id ⊢
    obtain rfl := unique.eq_of_id_eq there before id
    exact iff_of_true recorded fun both => absurd both.2.symm hit

theorem recorded_export (w : Workflow) (evaluate : Evaluator) {object : CanonicalObject}
    (time : Timestamp) (stored : object ∈ s.store.objects)
    (after : y ∈ (w.exportObject evaluate object time false s).2.store.objects) :
    (y.recorded endpoint).isSome ↔ ¬ (w.endpoint = endpoint ∧ object.id = x.id ∧
      (w.exportObject evaluate object time false s).1 = .ok .deleted) := by
  obtain ⟨rows, _, _, ends⟩ := Workflow.writes_exportObject unique stored w evaluate time
  have still (same : (w.exportObject evaluate object time false s).2.store = s.store) : y = x :=
    unique.eq_of_id_eq (same ▸ after) before id
  cases result : (w.exportObject evaluate object time false s).1 with
  | error e =>
    rw [result] at ends
    rw [still ends]
    exact iff_of_true recorded nofun
  | ok o =>
    rw [result] at ends
    cases ends with
    | skipped _ same =>
      rw [still same]
      exact iff_of_true recorded nofun
    | delivered _ _ _ delivers =>
      have mine : w.endpoint = endpoint ∧ object.id = x.id → (w.previous object).isSome := by
        rintro ⟨rfl, same⟩
        rw [unique.eq_of_id_eq stored before same]
        exact recorded
      cases delivers with
      | idle _ same =>
        rw [still same]
        exact iff_of_true recorded nofun
      | unchanged _ _ stamps =>
        rw [recorded_stamps unique before id recorded stored stamps after]
        exact iff_of_true mine nofun
      | created _ _ stamps | updated _ _ _ _ stamps =>
        rw [recorded_stamps unique before id recorded stored stamps after]
        exact iff_of_true (fun both => isSome_identifierAfter (mine both) _) nofun
      | deleted _ _ stamps =>
        rw [recorded_stamps unique before id recorded stored stamps after]
        simp

theorem recorded_step {task : Task} (current : task.Current s.store)
    (after : y ∈ (task.run false s).2.store.objects) :
    (y.recorded endpoint).isSome ↔ ¬ task.Forgets endpoint (task.run false s).1 x y := by
  cases task with
  | exports w evaluate object time =>
    exact recorded_export unique before id recorded w evaluate time current after
  | imports w evaluate collection record time =>
    refine isSome_iff_of_rewrote ?_ recorded
    rcases Workflow.import_objects w evaluate collection record time s with
      same | ⟨_, _, _, write, _, _, placed, same⟩
    · exact Or.inl (same.eq unique before after id)
    · exact Workflow.rewrote_placing placed (same.treated unique before after id)
  | cleansUp w evaluate object time =>
    refine isSome_iff_of_rewrote ?_ recorded
    rcases Workflow.cleanUp_objects w evaluate ⟨object, current, rfl⟩ time with
      same | ⟨write, _, swept, same⟩
    · exact Or.inl (same.eq unique before after id)
    · exact Workflow.rewrote_sweeping swept (same.treated unique before after id)

end Step

-- The stores that tasks lead to which do not make the object lose its identifier. Each task meets
-- an endpoint and failures of its own.
inductive Retains (endpoint : String) (id : ObjectId) (start : Store) : Store → Prop
  | start : Retains endpoint id start start
  | after {s : Session} (task : Task) (before : Retains endpoint id start s.store)
    (current : task.Current s.store)
    (keeps : ∀ x ∈ s.store.objects, ∀ y ∈ (task.run false s).2.store.objects, x.id = id →
      y.id = id → ¬ task.Forgets endpoint (task.run false s).1 x y) :
    Retains endpoint id start (task.run false s).2.store

theorem succeeds_run {task : Task} {s : Session} (unique : s.store.UniqueObjects)
    (current : task.Current s.store) : s.store.Succeeds (task.run false s).2.store := by
  cases task with
  | imports w evaluate collection record time =>
    exact Workflow.succeeds_import w evaluate collection record time s
  | cleansUp w evaluate object time =>
    exact Workflow.succeeds_cleanUp w evaluate ⟨object, current, rfl⟩ time
  | exports w evaluate object time =>
    obtain ⟨rows, _, _, ends⟩ := Workflow.writes_exportObject unique current w evaluate time
    have still (same : (w.exportObject evaluate object time false s).2.store = s.store) :
        s.store.Succeeds (w.exportObject evaluate object time false s).2.store :=
      Store.SameObjects.succeeds (same ▸ .refl _)
    cases result : (w.exportObject evaluate object time false s).1 with
    | error e =>
      rw [result] at ends
      exact still ends
    | ok o =>
      rw [result] at ends
      rcases Workflow.Exports.rewrites ends with same | ⟨seed, rewrites⟩
      · exact still same
      · exact rewrites.succeeds

structure Recorded (endpoint : String) (id : ObjectId) (s : Store) : Prop where
  unique : s.UniqueObjects
  older : id.number < s.nextObject
  recorded : ∀ x ∈ s.objects, x.id = id → (x.recorded endpoint).isSome

theorem Retains.recorded {endpoint : String} {id : ObjectId} {start s : Store}
    (first : Recorded endpoint id start) (retains : Retains endpoint id start s) :
    Recorded endpoint id s := by
  induction retains with
  | start => exact first
  | @after s task _ current keeps ih =>
    have succeeds := succeeds_run ih.unique current
    refine ⟨succeeds.unique ih.unique, Nat.lt_of_lt_of_le ih.older succeeds.counter, ?_⟩
    rintro y after rfl
    obtain ⟨x, before, same⟩ := succeeds.older y after ih.older
    exact (recorded_step ih.unique before same.symm (ih.recorded x before same) current after).2
      (keeps x before y after same rfl)

-- An identifier that an object has at an endpoint is not lost along a history, as long as the
-- object is there, but in a step of just two kinds: an export that answers that the row was
-- deleted, and a clean-up or an import that rewrites the object for a workflow that keeps it the
-- latest.
theorem identifier_lost_iff_forgotten {endpoint : String} {start : Store} {o : CanonicalObject}
    (unique : start.UniqueObjects) (stored : o ∈ start.objects)
    (recorded : (o.recorded endpoint).isSome) {s : Session}
    (retains : Retains endpoint o.id start s.store) {task : Task}
    (current : task.Current s.store) {x y : CanonicalObject} (before : x ∈ s.store.objects)
    (after : y ∈ (task.run false s).2.store.objects) (same : x.id = o.id) (still : y.id = o.id) :
    (x.recorded endpoint).isSome ∧
      ((y.recorded endpoint).isSome ↔ ¬ task.Forgets endpoint (task.run false s).1 x y) := by
  have first : Recorded endpoint o.id start := by
    refine ⟨unique, unique.below o stored, fun x there same => ?_⟩
    rw [unique.eq_of_id_eq there stored same]
    exact recorded
  have now := retains.recorded first
  have known := now.recorded x before same
  exact ⟨known, recorded_step now.unique before (still.trans same.symm) known current after⟩

theorem identifier_handed_on_by_export :
    let ann : CanonicalObject := { Workflow.person 1 "ann" with
      status := [("ldap", ⟨⟨1, 0⟩, false, some "created", some "uid=ann"⟩)] }
    let s : Session := ⟨⟨[ann], [], 2, 1⟩,
      { Endpoint.named "ldap" with rows := [[("login", .string "ann")]] }, [], .never⟩
    let w := Workflow.logins "login" "login"
    let task : Task := .exports w (fun _ _ => .ok .null) ann ⟨2, 0⟩
    ∃ y, Workflow.ofSpec (Pattern.among []) (Workflow.loginsSpec "login" "login") = .ok w ∧
      s.store.UniqueObjects ∧ ann ∈ s.store.objects ∧
      Retains "ldap" ann.id s.store s.store ∧ task.Current s.store ∧
      (task.run false s).1 = .ok .unchanged ∧ (task.run false s).2.store.objects = [y] ∧
      y.id = ann.id ∧ (ann.recorded "ldap").isSome ∧
      ((y.recorded "ldap").isSome ↔ ¬ task.Forgets "ldap" (task.run false s).1 ann y) := by
  intro ann s w task
  have unique : s.store.UniqueObjects := ⟨by decide, by decide⟩
  have stored : ann ∈ s.store.objects := List.mem_singleton_self _
  have current : task.Current s.store := stored
  have mapping : w.mapper.map (fun _ _ => .ok .null) ann.data = .ok ann.data := by
    simp [w, Workflow.logins, ann, Workflow.person, Mapper.map, Mapper.mapAll,
      AttributeDefinition.resolve]
    rfl
  have run : ∃ y, task.run false s = (.ok .unchanged, (task.run false s).2) ∧
      (task.run false s).2.store.objects = [y] ∧ y.id = ann.id := by
    show ∃ y, w.exportObject _ ann ⟨2, 0⟩ false s =
      (.ok .unchanged, (w.exportObject _ ann ⟨2, 0⟩ false s).2) ∧
      (w.exportObject _ ann ⟨2, 0⟩ false s).2.store.objects = [y] ∧ y.id = ann.id
    rw [Workflow.exportObject_of_admitted rfl rfl mapping rfl]
    exact ⟨_, rfl, rfl, rfl⟩
  obtain ⟨y, run, objects, id⟩ := run
  exact ⟨y, rfl, unique, stored, .start, current, congrArg Prod.fst run, objects, id,
    identifier_lost_iff_forgotten unique stored rfl .start current stored
      (objects ▸ List.mem_singleton_self y) rfl id⟩

-- An export records the identifier that Ann got at the endpoint, and the import of her row, which
-- changes nothing else, drops it. The next export has none to hand on.
theorem import_drops_identifier :
    let evaluate : Evaluator := fun _ _ => .ok .null
    let ann := Workflow.person 1 "ann"
    let s : Session := ⟨⟨[ann], [], 2, 1⟩, .named "ldap", [], .never⟩
    let w := Workflow.logins "login" "login"
    let exported (o : CanonicalObject) (time : Timestamp) (s : Session) :=
      w.exportObject evaluate o time false s
    let first := exported ann ⟨1, 0⟩ s
    let imported := w.importRecord evaluate "people" [("login", .string "ann")] ⟨2, 0⟩ false
      first.2
    Workflow.ofSpec (Pattern.among []) (Workflow.loginsSpec "login" "login") = .ok w ∧
      first.1.mapError WorkflowError.isRetryable = .ok .created ∧
      first.2.store.objects.map (CanonicalObject.recorded · "ldap") = [some "1"] ∧
      imported.1.mapError WorkflowError.isRetryable = .ok .unchanged ∧
      imported.2.store.objects.map (CanonicalObject.recorded · "ldap") = [none] ∧
      imported.2.store.objects.map (fun o =>
        (exported o ⟨3, 0⟩ imported.2).2.store.objects.map (CanonicalObject.recorded · "ldap")) =
          [[none]] := by
  refine ⟨rfl, ?_⟩
  decide +kernel

end Task

end RecordSync
