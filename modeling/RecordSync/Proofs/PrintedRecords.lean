import RecordSync.Command.Run
import RecordSync.Proofs.NoDifference
import RecordSync.Proofs.PrintedDocuments
import RecordSync.Proofs.ValidWorkflows

set_option autoImplicit false

namespace RecordSync

theorem exact_of_floats {v : Value}
    (floats : ∀ f finite, Number.float f finite ∈ v.numbers → Document.Exact (.float f finite)) :
    ∀ n ∈ v.numbers, Document.Exact n := by
  intro n member
  cases n with
  | int value inRange => exact Document.exact_int inRange
  | float f finite => exact floats f finite member

namespace Surroundings

-- A run in which these files and the settings are as before, and expressions are answered alike.
structure Again (s t : Surroundings) (paths : List String) : Prop where
  fileText : ∀ path ∈ paths, t.fileText path = s.fileText path
  environment : t.environment = s.environment
  evaluator : ∀ limits code context, t.evaluator limits code context = s.evaluator limits code context

variable {lib : Libraries} {s t : Surroundings} {paths : List String}

theorem Again.text (again : s.Again t paths) {path : String} (member : path ∈ paths) :
    t.text path = s.text path := by
  rw [Surroundings.text, again.fileText path member, Surroundings.text]

theorem Again.record (again : s.Again t paths) {path : String} (member : path ∈ paths) :
    t.record lib path = s.record lib path := by
  rw [Surroundings.record, again.text member, Surroundings.record]

theorem Again.limits (again : s.Again t paths) : t.limits = s.limits := by
  rw [Surroundings.limits, again.environment, Surroundings.limits]

theorem Again.evaluator_eq (again : s.Again t paths) : t.evaluator = s.evaluator := by
  funext limits code context
  exact again.evaluator limits code context

theorem record_of_printed {path : String} {r : Record} (keyed : Record.WellKeyed r)
    (shallow : (Value.object r).depth ≤ Document.maxDepth)
    (exact : ∀ n ∈ (Value.object r).numbers, Document.Exact n)
    (saved : s.fileText path = .ok (Style.json.print (Record.lines r) (.object r))) :
    s.record lib path = .ok r := by
  have there : s.text path = .ok (Style.json.print (Record.lines r) (.object r)) := by
    rw [Surroundings.text, saved]
    rfl
  exact record_of_read there (Document.read_spread keyed shallow exact)

theorem record_of_printed_numberless {path : String} {r : Record} (keyed : Record.WellKeyed r)
    (shallow : (Value.object r).depth ≤ Document.maxDepth)
    (numberless : (Value.object r).numbers = [])
    (saved : s.fileText path = .ok (Style.json.print (Record.lines r) (.object r))) :
    s.record lib path = .ok r :=
  record_of_printed keyed shallow (by simp [numberless]) saved

end Surroundings

section Files

variable {lib : Libraries} {s t : Surroundings} {file record existing : String} {mapped e : Record}

theorem mapFile_eq_ok (run : mapFile lib s file record = .ok mapped) :
    ∃ w source limits, s.workflow lib file = .ok w ∧ s.record lib record = .ok source ∧
      s.limits = .ok limits ∧ w.mapper.map (s.evaluator limits) source = .ok mapped := by
  obtain ⟨w, loaded, run⟩ := Except.bind_eq_ok run
  obtain ⟨source, given, run⟩ := Except.bind_eq_ok run
  obtain ⟨limits, limited, run⟩ := Except.bind_eq_ok run
  refine ⟨w, source, limits, loaded, given, limited, ?_⟩
  cases resolved : w.mapper.map (s.evaluator limits) source with
  | ok r =>
    rw [resolved] at run
    exact congrArg Except.ok (Except.ok.inj run)
  | error e =>
    rw [resolved] at run
    cases run

-- What one run maps is what a later one takes the difference of, if it finds things as they were.
theorem diffFile_of_mapFile (run : mapFile lib s file record = .ok mapped)
    (again : s.Again t [file, record]) (read : t.record lib existing = .ok e) :
    ∃ m : Mapper, m.Image mapped ∧ diffFile lib t file record existing = .ok (m.diff mapped e) := by
  obtain ⟨w, source, limits, loaded, given, limited, resolved⟩ := mapFile_eq_ok run
  refine ⟨w.mapper, Mapper.image_map resolved, ?_⟩
  rw [← Surroundings.workflow_congr (again.fileText file List.mem_cons_self)] at loaded
  rw [← again.record (by simp)] at given
  rw [← again.limits] at limited
  rw [← again.evaluator_eq] at resolved
  simp only [diffFile, loaded, given, read, limited, resolved, bind, Except.bind]
  rfl

end Files

namespace Mapper

variable {m : Mapper} {evaluate : Evaluator} {source mapped : Record}

end Mapper

end RecordSync
