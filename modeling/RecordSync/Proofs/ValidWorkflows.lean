import RecordSync.Command.Run
import RecordSync.Proofs.Conformance

set_option autoImplicit false

namespace RecordSync

namespace Except

variable {ε ε' α β : Type} {P : ε → Prop}

def FailsWith (P : ε → Prop) (x : Except ε α) : Prop :=
  ∀ e, x = .error e → P e

theorem failsWith_ok (a : α) : FailsWith P (.ok a : Except ε α) :=
  fun _ => nofun

theorem failsWith_error {e : ε} (holds : P e) : FailsWith P (.error e : Except ε α) := by
  rintro _ ⟨⟩
  exact holds

theorem FailsWith.mono {Q : ε → Prop} {x : Except ε α} (fails : FailsWith P x)
    (weaker : ∀ e, P e → Q e) : FailsWith Q x :=
  fun e failed => weaker e (fails e failed)

theorem FailsWith.bind {x : Except ε α} {f : α → Except ε β} (first : FailsWith P x)
    (later : ∀ a, x = .ok a → FailsWith P (f a)) : FailsWith P (x >>= f) := by
  cases x with
  | error e => exact failsWith_error (first e rfl)
  | ok a => exact later a rfl

theorem failsWith_mapError {g : ε' → ε} {x : Except ε' α} (fails : FailsWith (fun e => P (g e)) x) :
    FailsWith P (x.mapError g) := by
  cases x with
  | error e => exact failsWith_error (fails e rfl)
  | ok a => exact failsWith_ok a

theorem failsWith_mapM {f : α → Except ε β} {xs : List α} (each : ∀ x ∈ xs, FailsWith P (f x)) :
    FailsWith P (xs.mapM f) := by
  induction xs with
  | nil => exact failsWith_ok []
  | cons x xs ih =>
    obtain ⟨head, tail⟩ := List.forall_mem_cons.1 each
    rw [List.mapM_cons]
    exact head.bind fun y _ => (ih tail).bind fun ys _ => failsWith_ok (y :: ys)

end Except

namespace AttributeDefinition

variable {evaluate : Evaluator} {record : Record} {d : AttributeDefinition} {e : MappingError}

inductive Unresolved : AttributeDefinition → MappingError → Prop
  | own {d : AttributeDefinition} (fault : ResolutionFault) : Unresolved d (.resolution d.name fault)
  | element {d nested : AttributeDefinition} {e : MappingError} (declared : d.unwind = some nested)
      (inner : Unresolved nested e) : Unresolved d e

theorem Unresolved.eq_resolution (unresolved : d.Unresolved e) :
    ∃ name fault, e = .resolution name fault := by
  induction unresolved with
  | @own d fault => exact ⟨d.name, fault, rfl⟩
  | element _ _ ih => exact ih

theorem fails_leaveOut (required lenient : Bool) :
    Except.FailsWith d.Unresolved (leaveOut d.name required lenient) := by
  unfold leaveOut
  split
  · exact Except.failsWith_error (.own .missing)
  · exact Except.failsWith_ok none

theorem fails_resolve (evaluate : Evaluator) (lenient : Bool) (record : Record)
    (d : AttributeDefinition) :
    Except.FailsWith d.Unresolved (d.resolve evaluate lenient record) := by
  -- Expressions that fail count as no answer, so what the evaluator says does not matter.
  induction d using induction generalizing lenient record with
  | step d ih =>
    obtain ⟨name, sources, kind, ensure, required, rewrite, require, unwind, relation⟩ := d
    let d : AttributeDefinition :=
      ⟨name, sources, kind, ensure, required, rewrite, require, unwind, relation⟩
    have kept (value : Value) : Except.FailsWith d.Unresolved
        (if value.isEmpty then leaveOut name required lenient else .ok (some value)) := by
      split
      · exact fails_leaveOut required lenient
      · exact Except.failsWith_ok _
    unfold resolve
    split
    · exact Except.failsWith_ok none
    · dsimp only
      split
      · exact fails_leaveOut (d := d) required lenient
      · split
        · rename_i fault _
          exact Except.failsWith_error (.own (d := d) fault)
        · split
          · rename_i fault _
            exact Except.failsWith_error (.own (d := d) (.uncoercible fault))
          · split
            · rename_i nested items _
              refine (Except.failsWith_mapM fun item _ => ?_).bind fun survivors _ => kept _
              exact (ih nested rfl true [(unwindKey, item)]).mono fun _ => .element (d := d) rfl
            · exact kept _

end AttributeDefinition

namespace Mapper

theorem fails_mapAll (evaluate : Evaluator) (record : Record) (ds : List AttributeDefinition) :
    Except.FailsWith (fun e => ∃ d ∈ ds, d.Unresolved e) (mapAll evaluate record ds) := by
  induction ds with
  | nil => exact Except.failsWith_ok []
  | cons d ds ih =>
    have first := AttributeDefinition.fails_resolve evaluate false record d
    refine (first.mono fun e unresolved => ⟨d, List.mem_cons_self, unresolved⟩).bind fun _ _ => ?_
    refine (ih.mono fun e unresolved => ?_).bind fun _ _ => Except.failsWith_ok _
    obtain ⟨later, there, unresolved⟩ := unresolved
    exact ⟨later, List.mem_cons_of_mem d there, unresolved⟩

theorem map_ok_or_resolution (m : Mapper) (evaluate : Evaluator) (record : Record) :
    (∃ mapped, m.map evaluate record = .ok mapped) ∨
      ∃ name fault, m.map evaluate record = .error (.resolution name fault) := by
  cases run : m.map evaluate record with
  | ok mapped => exact Or.inl ⟨mapped, rfl⟩
  | error e =>
    obtain ⟨_, _, unresolved⟩ := fails_mapAll evaluate record m.definitions e run
    obtain ⟨name, fault, rfl⟩ := unresolved.eq_resolution
    exact Or.inr ⟨name, fault, rfl⟩

end Mapper

namespace CommandError

inductive Elsewhere : CommandError → Prop
  | file (path message : String) : Elsewhere (.unreadableFile path message)
  | input (path : String) (fault : InputFault) : Elsewhere (.invalidInput path fault)
  | setting (e : LimitError) : Elsewhere (.limits e)
  | record (name : String) (fault : ResolutionFault) : Elsewhere (.mapping (.resolution name fault))

theorem Elsewhere.exitCode {e : CommandError} (elsewhere : e.Elsewhere) : e.exitCode ∈ [1, 3, 5] := by
  cases elsewhere <;> simp [CommandError.exitCode]

end CommandError

namespace Surroundings

variable {lib : Libraries}

theorem fails_record (lib : Libraries) (s : Surroundings) (path : String) :
    Except.FailsWith CommandError.Elsewhere (s.record lib path) := by
  refine (Except.failsWith_mapError fun _ _ => .file path _).bind fun text _ => ?_
  split
  · exact Except.failsWith_ok _
  · exact Except.failsWith_error (.input path .notObject)
  · exact Except.failsWith_error (.input path (.malformed _))

theorem fails_limits (s : Surroundings) :
    Except.FailsWith CommandError.Elsewhere s.limits :=
  Except.failsWith_mapError fun e _ => .setting e

theorem record_of_read {s : Surroundings} {path text : String} {fields : Record}
    (there : s.text path = .ok text) (object : Document.read text = some (.object fields)) :
    s.record lib path = .ok fields := by
  unfold record
  rw [there]
  simp only [bind, Except.bind, object]
  rfl

theorem workflow_congr {s s' : Surroundings} {file : String}
    (same : s'.fileText file = s.fileText file) : s'.workflow lib file = s.workflow lib file := by
  unfold workflow text
  rw [same]

end Surroundings

theorem fails_mapped (m : Mapper) (evaluate : Evaluator) (record : Record) :
    Except.FailsWith CommandError.Elsewhere
      ((m.map evaluate record).mapError CommandError.mapping) := by
  refine Except.failsWith_mapError fun e failed => ?_
  rcases m.map_ok_or_resolution evaluate record with ⟨mapped, run⟩ | ⟨name, fault, run⟩
  · cases failed.symm.trans run
  · cases failed.symm.trans run
    exact .record name fault

theorem fails_mapFile {lib : Libraries} {s : Surroundings} {file : String} {w : Workflow}
    (valid : s.workflow lib file = .ok w) (record : String) :
    Except.FailsWith CommandError.Elsewhere (mapFile lib s file record) := by
  unfold mapFile
  rw [valid]
  exact (s.fails_record lib record).bind fun source _ => s.fails_limits.bind fun limits _ =>
    fails_mapped w.mapper (s.evaluator limits) source

theorem fails_diffFile {lib : Libraries} {s : Surroundings} {file : String} {w : Workflow}
    (valid : s.workflow lib file = .ok w) (record existing : String) :
    Except.FailsWith CommandError.Elsewhere (diffFile lib s file record existing) := by
  unfold diffFile
  rw [valid]
  exact (s.fails_record lib record).bind fun source _ =>
    (s.fails_record lib existing).bind fun _ _ => s.fails_limits.bind fun limits _ =>
      (fails_mapped w.mapper (s.evaluator limits) source).bind fun _ _ => Except.failsWith_ok _

-- Once a workflow file is valid, commands on its text never fail for the workflow, whatever the
-- other files and the settings are. Mapping itself only ever fails with a resolution error.
theorem valid_workflow_never_blamed {lib : Libraries} {s s' : Surroundings} {file : String}
    {v : Validation} (valid : validate lib s file = .ok v)
    (same : s'.fileText file = s.fileText file) :
    (∀ record e, mapFile lib s' file record = .error e → e.exitCode ≠ 4) ∧
      (∀ record existing e, diffFile lib s' file record existing = .error e → e.exitCode ≠ 4) ∧
      (∃ w, s'.workflow lib file = .ok w) ∧
      ∀ (m : Mapper) evaluate record, (∃ mapped, m.map evaluate record = .ok mapped) ∨
        ∃ name fault, m.map evaluate record = .error (.resolution name fault) := by
  obtain ⟨w, loaded, _⟩ := Except.bind_eq_ok valid
  rw [← Surroundings.workflow_congr same] at loaded
  have spared {e : CommandError} (elsewhere : e.Elsewhere) : e.exitCode ≠ 4 := by
    intro four
    have listed := elsewhere.exitCode
    rw [four] at listed
    simp at listed
  exact ⟨fun record e failed => spared (fails_mapFile loaded record e failed),
    fun record existing e failed => spared (fails_diffFile loaded record existing e failed),
    ⟨w, loaded⟩, fun m => m.map_ok_or_resolution⟩

-- Tags are required and unwound by an expression. A record without tags cannot be mapped, and its
-- file is to blame.
theorem valid_workflow_never_blamed_for_tags :
    let text := "name: w\ncollection: c\nendpoint: e\nattributes:\n  tags:\n    from: tags\n" ++
      "    type: array\n    unwind:\n      expression: root\n"
    let tags : Value := .object [("from", .string "tags"), ("type", .string "array"),
      ("unwind", .object [("expression", .string "root")])]
    let lib := Libraries.knowing text ⟨"w", "c", "e", .latest, none, [], [("tags", tags)]⟩
    let s : Surroundings :=
      ⟨fun path => if path = "w.yaml" then .ok text else .ok "{}", [], fun _ => .ofKeys⟩
    ∃ e, (∃ v, validate lib s "w.yaml" = .ok v) ∧ mapFile lib s "w.yaml" "r.json" = .error e ∧
      e.exitCode = 5 ∧ e.exitCode ≠ 4 := by
  intro text tags lib s
  have checked : (validate lib s "w.yaml").toOption.isSome = true := by decide +kernel
  obtain ⟨v, valid⟩ : ∃ v, validate lib s "w.yaml" = .ok v := by
    cases run : validate lib s "w.yaml" with
    | ok v => exact ⟨v, rfl⟩
    | error e => simp [run, Except.toOption] at checked
  have blank : Document.read "{}" = some (.object []) := by
    simp [Document.read, Document.readEntries, Document.readValue, Document.skipSpace,
      Document.isSpace, Document.maxDepth, Value.collectKeys, Value.collectFields, Keyed.collect]
  have empty : s.record lib "r.json" = .ok [] := Surroundings.record_of_read rfl blank
  have ended : (mapFile lib s "w.yaml" "r.json").mapError CommandError.exitCode = .error 5 := by
    simp only [mapFile, empty]
    decide +kernel
  cases run : mapFile lib s "w.yaml" "r.json" with
  | ok r => simp [run, Except.mapError] at ended
  | error e =>
    have code : e.exitCode = 5 := by simpa [run, Except.mapError] using ended
    exact ⟨e, ⟨v, valid⟩, rfl, code, (valid_workflow_never_blamed valid rfl).1 "r.json" e run⟩

end RecordSync
