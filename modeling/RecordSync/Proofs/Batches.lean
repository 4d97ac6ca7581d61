import RecordSync.Batch.Run
import RecordSync.Proofs.Runs

set_option autoImplicit false

namespace RecordSync

abbrev Results : Type := List (String × Except WorkflowError Outcome)

def Report.tracked (report : Report) (results : Results) : Report :=
  results.foldl (fun report result => report.track result.1 result.2) report

namespace Batch

-- What the objects of a batch come to. Each starts from what those before it left.
def results : List (String × Sync Outcome) → Session → Results
  | [], _ => []
  | (key, act) :: rest, s => (key, (act s).1) :: results rest (act s).2

theorem trackAll_fst (acts : List (String × Sync Outcome)) (report : Report) (s : Session) :
    (trackAll acts report s).1 = .ok (report.tracked (results acts s)) := by
  induction acts generalizing report s with
  | nil => rfl
  | cons act rest ih => exact ih _ _

theorem trackAll_snd (acts : List (String × Sync Outcome)) (report report' : Report)
    (s : Session) : (trackAll acts report s).2 = (trackAll acts report' s).2 := by
  induction acts generalizing report report' s with
  | nil => rfl
  | cons act rest ih => exact ih _ _ _

theorem keys_results (acts : List (String × Sync Outcome)) (s : Session) :
    (results acts s).map Prod.fst = acts.map Prod.fst := by
  induction acts generalizing s with
  | nil => rfl
  | cons act rest ih => exact congrArg (act.1 :: ·) (ih _)

theorem length_results (acts : List (String × Sync Outcome)) (s : Session) :
    (results acts s).length = acts.length := by
  simpa using congrArg List.length (keys_results acts s)

theorem results_getElem? (acts : List (String × Sync Outcome)) (s : Session) (i : Nat) :
    (results acts s)[i]? =
      acts[i]?.map fun act => (act.1, (act.2 (trackAll (acts.take i) .empty s).2).1) := by
  induction acts generalizing s i with
  | nil => rfl
  | cons act rest ih =>
    cases i with
    | zero => rfl
    | succ i =>
      have left : (trackAll ((act :: rest).take (i + 1)) .empty s).2 =
          (trackAll (rest.take i) .empty (act.2 s).2).2 :=
        trackAll_snd (rest.take i) (Report.empty.track act.1 (act.2 s).1) .empty (act.2 s).2
      rw [left]
      exact ih _ i

theorem trackAll_invariant {acts : List (String × Sync Outcome)} (good : Session → Prop)
    (each : ∀ act ∈ acts, ∀ s, good s → good (act.2 s).2) (report : Report) {s : Session}
    (start : good s) : good (trackAll acts report s).2 := by
  induction acts generalizing report s with
  | nil => exact start
  | cons act rest ih =>
    obtain ⟨first, later⟩ := List.forall_mem_cons.1 each
    exact ih later _ (first s start)

end Batch

namespace Workflow

variable {w : Workflow} {evaluate : Evaluator} {time : Timestamp} {simulate : Bool}

theorem imports_eq_mapIdx (records : List Record) (start : Nat) :
    w.imports evaluate time simulate start records = records.mapIdx fun i record =>
      (s!"record[{start + i}]", w.importRecord evaluate w.collection record time simulate) := by
  induction records generalizing start with
  | nil => rfl
  | cons record rest ih => simp [imports, List.mapIdx_cons, ih, Nat.add_comm, Nat.add_left_comm]

theorem imports_take (records : List Record) (start i : Nat) :
    (w.imports evaluate time simulate start records).take i =
      w.imports evaluate time simulate start (records.take i) := by
  rw [imports_eq_mapIdx, imports_eq_mapIdx]
  apply List.ext_getElem?
  intro j
  simp only [List.getElem?_take, List.getElem?_mapIdx]
  split <;> rfl

theorem mem_imports {start : Nat} {records : List Record} {act : String × Sync Outcome}
    (member : act ∈ w.imports evaluate time simulate start records) :
    ∃ record ∈ records, act.2 = w.importRecord evaluate w.collection record time simulate := by
  rw [imports_eq_mapIdx, List.mem_mapIdx] at member
  obtain ⟨i, inside, rfl⟩ := member
  exact ⟨records[i], List.getElem_mem inside, rfl⟩

theorem imports_invariant (good : Session → Prop)
    (each : ∀ record s, good s →
      good (w.importRecord evaluate w.collection record time simulate s).2)
    (records : List Record) (start : Nat) (report : Report) {s : Session} (before : good s) :
    good (Batch.trackAll (w.imports evaluate time simulate start records) report s).2 := by
  refine Batch.trackAll_invariant good (fun act member s => ?_) report before
  obtain ⟨record, _, same⟩ := mem_imports member
  rw [same]
  exact each record s

end Workflow

end RecordSync
