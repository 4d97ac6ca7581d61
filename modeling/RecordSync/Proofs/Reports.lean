import RecordSync.Proofs.Batches
import RecordSync.Proofs.ImportPlans

set_option autoImplicit false

namespace RecordSync

namespace Statistics

def tally (answers : List (Option Outcome)) : Statistics where
  processed := .ofNat (answers.countP fun answer => answer.any Outcome.isProcessed)
  skipped := .ofNat (answers.count (some .skipped))
  failed := .ofNat (answers.count none)
  created := .ofNat (answers.count (some .created))
  updated := .ofNat (answers.count (some .updated))
  deleted := .ofNat (answers.count (some .deleted))
  unchanged := .ofNat (answers.count (some .unchanged))
  duration := 0

def numberOf (s : Statistics) : Option Outcome → UInt32
  | none => s.failed
  | some .skipped => s.skipped
  | some .created => s.created
  | some .updated => s.updated
  | some .deleted => s.deleted
  | some .unchanged => s.unchanged

theorem numberOf_tally (answers : List (Option Outcome)) (answer : Option Outcome) :
    (tally answers).numberOf answer = .ofNat (answers.count answer) := by
  rcases answer with _ | outcome
  · rfl
  · cases outcome <;> rfl

theorem merge_assoc (a b c : Statistics) : (a.merge b).merge c = a.merge (b.merge c) := by
  simp [merge, UInt32.add_assoc, UInt64.add_assoc]

theorem zero_merge (s : Statistics) : zero.merge s = s := by
  simp [merge, zero]

theorem merge_tally_nil (s : Statistics) : s.merge (tally []) = s := by
  simp [merge, tally]

theorem tally_append (front back : List (Option Outcome)) :
    tally (front ++ back) = (tally front).merge (tally back) := by
  simp [tally, merge, List.countP_append, List.count_append, UInt32.ofNat_add]

theorem record_eq_merge (s : Statistics) (o : Outcome) : s.record o = s.merge (tally [some o]) := by
  cases o <;> simp [record, merge, tally, Outcome.isProcessed]

theorem recordFailure_eq_merge (s : Statistics) : s.recordFailure = s.merge (tally [none]) := by
  simp [recordFailure, merge, tally]

theorem countP_processed (answers : List (Option Outcome)) :
    answers.countP (fun answer => answer.any Outcome.isProcessed) =
      answers.count (some .created) + answers.count (some .updated) +
        answers.count (some .deleted) + answers.count (some .unchanged) := by
  induction answers with
  | nil => rfl
  | cons answer rest ih =>
    rcases answer with _ | outcome
    · simp [ih]
    · cases outcome <;> simp [ih, Outcome.isProcessed] <;> omega

theorem length_eq_counts (answers : List (Option Outcome)) :
    answers.length = answers.countP (fun answer => answer.any Outcome.isProcessed) +
      answers.count (some .skipped) + answers.count none := by
  induction answers with
  | nil => rfl
  | cons answer rest ih =>
    rcases answer with _ | outcome
    · simp [ih]
      omega
    · cases outcome <;> simp [ih, Outcome.isProcessed] <;> omega

section Small

variable {answers : List (Option Outcome)} (small : answers.length < UInt32.size)

include small

theorem toNat_processed :
    (tally answers).processed.toNat =
      answers.countP fun answer => answer.any Outcome.isProcessed :=
  UInt32.toNat_ofNat_of_lt' (Nat.lt_of_le_of_lt List.countP_le_length small)

theorem toNat_numberOf (answer : Option Outcome) :
    ((tally answers).numberOf answer).toNat = answers.count answer := by
  rw [numberOf_tally]
  exact UInt32.toNat_ofNat_of_lt' (Nat.lt_of_le_of_lt List.count_le_length small)

theorem length_eq_tally :
    answers.length = (tally answers).processed.toNat + (tally answers).skipped.toNat +
      (tally answers).failed.toNat := by
  have skipped := toNat_numberOf small (some .skipped)
  have failed := toNat_numberOf small none
  simp only [numberOf] at skipped failed
  rw [toNat_processed small, skipped, failed]
  exact length_eq_counts answers

theorem toNat_total : (tally answers).total.toNat = answers.length := by
  have whole := length_eq_tally small
  unfold total
  rw [UInt32.toNat_add, UInt32.toNat_add, Nat.mod_add_mod, ← whole]
  exact Nat.mod_eq_of_lt small

theorem processed_eq_parts :
    (tally answers).processed.toNat = (tally answers).created.toNat +
      (tally answers).updated.toNat + (tally answers).deleted.toNat +
      (tally answers).unchanged.toNat := by
  have created := toNat_numberOf small (some .created)
  have updated := toNat_numberOf small (some .updated)
  have deleted := toNat_numberOf small (some .deleted)
  have unchanged := toNat_numberOf small (some .unchanged)
  simp only [numberOf] at created updated deleted unchanged
  rw [toNat_processed small, created, updated, deleted, unchanged]
  exact countP_processed answers

end Small

end Statistics

namespace Results

def answers (results : Results) : List (Option Outcome) :=
  results.map fun result => result.2.toOption

def failures (results : Results) : List ObjectFailure :=
  results.filterMap fun result =>
    match result.2 with
    | .ok _ => none
    | .error e => some (.ofError result.1 e)

theorem length_failures (results : Results) :
    results.failures.length = results.answers.count none := by
  induction results with
  | nil => rfl
  | cons result rest ih =>
    obtain ⟨key, e | outcome⟩ := result <;>
      simpa [failures, answers, Except.toOption] using ih

theorem keys_failures (results : Results) :
    (results.failures.map ObjectFailure.key).Sublist (results.map Prod.fst) := by
  induction results with
  | nil => exact List.Sublist.slnil
  | cons result rest ih =>
    obtain ⟨key, e | outcome⟩ := result
    · exact ih.cons_cons key
    · exact ih.cons key

theorem mem_keys_failures {results : Results} {key : String} :
    key ∈ results.failures.map ObjectFailure.key ↔
      ∃ (i : Nat) (e : WorkflowError), results[i]? = some (key, .error e) := by
  constructor
  · intro listed
    obtain ⟨failure, member, rfl⟩ := List.mem_map.1 listed
    obtain ⟨⟨key, e | outcome⟩, there, made⟩ := List.mem_filterMap.1 member
    · cases made
      obtain ⟨i, found⟩ := List.mem_iff_getElem?.1 there
      exact ⟨i, e, found⟩
    · cases made
  · rintro ⟨i, e, found⟩
    exact List.mem_map.2 ⟨.ofError key e,
      List.mem_filterMap.2 ⟨_, List.mem_of_getElem? found, rfl⟩, rfl⟩

end Results

namespace Report

variable {results : Results}

theorem tracked_eq (report : Report) (results : Results) :
    report.tracked results =
      ⟨report.statistics.merge (.tally results.answers), report.failures ++ results.failures⟩ := by
  induction results generalizing report with
  | nil => simp [tracked, Results.answers, Results.failures, Statistics.merge_tally_nil]
  | cons result rest ih =>
    obtain ⟨key, e | outcome⟩ := result
    · have step := Statistics.recordFailure_eq_merge report.statistics
      refine (ih _).trans ?_
      simp [track, step, Results.answers, Results.failures, Statistics.merge_assoc,
        ← Statistics.tally_append, Except.toOption]
    · have step := Statistics.record_eq_merge report.statistics outcome
      refine (ih _).trans ?_
      simp [track, step, Results.answers, Results.failures, Statistics.merge_assoc,
        ← Statistics.tally_append, Except.toOption]

theorem tracked_empty (results : Results) :
    empty.tracked results = ⟨.tally results.answers, results.failures⟩ := by
  rw [tracked_eq]
  simp [empty, Statistics.zero_merge]

-- What a report has to say of a number of objects that were given and of what they came to.
structure Accounts (report : Report) (given : Nat) (results : Results) : Prop where
  seen : report.statistics.processed.toNat + report.statistics.skipped.toNat +
    report.statistics.failed.toNat = given
  total : report.statistics.total.toNat = given
  processed : report.statistics.processed.toNat =
    report.statistics.created.toNat + report.statistics.updated.toNat +
      report.statistics.deleted.toNat + report.statistics.unchanged.toNat
  failed : report.statistics.failed.toNat = report.failures.length
  listed : report.failures = results.failures
  ordered : (report.failures.map ObjectFailure.key).Sublist (results.map Prod.fst)
  counted : ∀ answer, (report.statistics.numberOf answer).toNat = results.answers.count answer

theorem accounts_tracked (small : results.length < UInt32.size) :
    (empty.tracked results).Accounts results.length results := by
  have length : results.answers.length = results.length := List.length_map _
  rw [← length] at small ⊢
  rw [tracked_empty]
  exact {
    seen := (Statistics.length_eq_tally small).symm
    total := Statistics.toNat_total small
    processed := Statistics.processed_eq_parts small
    failed := (Statistics.toNat_numberOf small none).trans results.length_failures.symm
    listed := rfl
    ordered := results.keys_failures
    counted := Statistics.toNat_numberOf small }

end Report

namespace Batch

theorem trackAll_accounts {acts : List (String × Sync Outcome)} {given : Nat} (s : Session)
    (length : acts.length = given) (small : given < UInt32.size) :
    ∃ report t, trackAll acts .empty s = (.ok report, t) ∧
      report.Accounts given (results acts s) := by
  have counted : (results acts s).length = given := (length_results acts s).trans length
  rw [← counted] at small ⊢
  exact ⟨_, _, Prod.ext (trackAll_fst acts .empty s) rfl, Report.accounts_tracked small⟩

end Batch

namespace Workflow

variable {w : Workflow} {evaluate : Evaluator} {time : Timestamp} {simulate : Bool}

theorem position_injective {i j : Nat} (same : s!"record[{i}]" = s!"record[{j}]") : i = j := by
  have digits := congrArg String.toList same
  simp only [toString, String.toList_append, List.append_cancel_right_eq,
    List.append_cancel_left_eq, Nat.repr_eq_ofList_toDigits, String.toList_ofList] at digits
  rw [← Nat.ofDigitChars_ten_toDigits (n := i), digits, Nat.ofDigitChars_ten_toDigits]

theorem keys_imports (records : List Record) :
    (w.imports evaluate time simulate 0 records).map Prod.fst =
      (List.range records.length).map fun i => s!"record[{i}]" := by
  apply List.ext_getElem <;> simp [imports_eq_mapIdx]

theorem results_imports_getElem? (records : List Record) (s : Session) (i : Nat) :
    (Batch.results (w.imports evaluate time simulate 0 records) s)[i]? =
      records[i]?.map fun record => (s!"record[{i}]",
        (w.importRecord evaluate w.collection record time simulate
          (w.importAll evaluate (records.take i) time simulate s).2).1) := by
  rw [Batch.results_getElem?, imports_take]
  simp only [imports_eq_mapIdx records, List.getElem?_mapIdx, Option.map_map, Nat.zero_add]
  rfl

theorem listed_iff_failed (records : List Record) (s : Session) (i : Nat) :
    s!"record[{i}]" ∈ (Batch.results (w.imports evaluate time simulate 0 records)
      s).failures.map ObjectFailure.key ↔ ∃ record e, records[i]? = some record ∧
        (w.importRecord evaluate w.collection record time simulate
          (w.importAll evaluate (records.take i) time simulate s).2).1 = .error e := by
  rw [Results.mem_keys_failures]
  simp only [results_imports_getElem?, Option.map_eq_some_iff, Prod.mk.injEq]
  constructor
  · rintro ⟨j, e, record, there, same, failed⟩
    cases position_injective same
    exact ⟨record, e, there, failed⟩
  · rintro ⟨record, e, there, failed⟩
    exact ⟨i, e, record, there, rfl, failed⟩

-- Every batch that fits the counters gets a report that accounts for each of its objects. An import
-- lists the positions of the records whose import failed, and the counts of two parts of a batch
-- add up.
theorem reports_account_for_batches (w : Workflow) (evaluate : Evaluator) (time : Timestamp)
    (simulate : Bool) (s : Session) :
    (∀ records, records.length < UInt32.size → ∃ report t,
      w.importAll evaluate records time simulate s = (.ok report, t) ∧
        report.Accounts records.length
          (Batch.results (w.imports evaluate time simulate 0 records) s) ∧
        (report.failures.map ObjectFailure.key).Sublist
          ((List.range records.length).map fun i => s!"record[{i}]") ∧
        ∀ i, s!"record[{i}]" ∈ report.failures.map ObjectFailure.key ↔
          ∃ record e, records[i]? = some record ∧
            (w.importRecord evaluate w.collection record time simulate
              (w.importAll evaluate (records.take i) time simulate s).2).1 = .error e) ∧
    (∀ objects, objects.length < UInt32.size → ∃ report t,
      w.exportAll evaluate objects time simulate s = (.ok report, t) ∧
        report.Accounts objects.length (Batch.results (objects.map fun o =>
          (o.id.render, w.exportObject evaluate o time simulate)) s)) ∧
    (∀ stale t, Sync.staleObjects w.collection s.endpoint.name time s = (.ok stale, t) →
      stale.length < UInt32.size → ∃ report u,
        w.collectGarbage evaluate time simulate s = (.ok report, u) ∧
          report.Accounts stale.length (Batch.results (stale.map fun o =>
            (o.id.render, w.cleanUp evaluate o time simulate)) t)) ∧
    ∀ (front back : Results) (first second : UInt64),
      { { (Report.empty.tracked front).statistics with duration := first }.merge
          { (Report.empty.tracked back).statistics with duration := second } with duration := 0 } =
        (Report.empty.tracked (front ++ back)).statistics := by
  refine ⟨fun records small => ?_, fun objects small => ?_, fun stale t listed small => ?_,
    fun front back first second => ?_⟩
  · have length : (w.imports evaluate time simulate 0 records).length = records.length := by
      simp [imports_eq_mapIdx]
    obtain ⟨report, t, run, accounts⟩ := Batch.trackAll_accounts s length small
    refine ⟨report, t, run, accounts, ?_, fun i => ?_⟩
    · have ordered := accounts.ordered
      rwa [Batch.keys_results, keys_imports] at ordered
    · rw [accounts.listed]
      exact listed_iff_failed records s i
  · exact Batch.trackAll_accounts s (List.length_map _) small
  · have length : (stale.map fun o =>
        (o.id.render, w.cleanUp evaluate o time simulate)).length = stale.length :=
      List.length_map _
    obtain ⟨report, u, run, accounts⟩ := Batch.trackAll_accounts t length small
    refine ⟨report, u, ?_, accounts⟩
    unfold collectGarbage
    rw [Sync.get_bind, Sync.bind_of_ok listed, run]
  · simp only [Report.tracked_empty, Results.answers, List.map_append, Statistics.tally_append]
    rfl

theorem reports_account_for_ann_and_bob :
    let bob : CanonicalObject := { person 1 "bob" with status := [("ldap", .synced ⟨1, 0⟩)] }
    let s : Session := ⟨⟨[bob], [], 2, 1⟩, .named "ldap", [], .never⟩
    let w := superiors .latest Ensure.latest_ne_merge
    let evaluate : Evaluator := fun _ _ => .ok .null
    ∃ imported exported swept t u v,
      w.importAll evaluate [annUnderBob, [], annUnderBob] ⟨2, 0⟩ false s = (.ok imported, t) ∧
      imported.statistics = ⟨2, 0, 1, 1, 0, 0, 1, 0⟩ ∧
      imported.failures.map ObjectFailure.key = ["record[1]"] ∧
      imported.statistics.total.toNat = 3 ∧
      w.exportAll evaluate [bob] ⟨2, 0⟩ false s = (.ok exported, u) ∧
      exported.statistics.total.toNat = 1 ∧
      w.collectGarbage evaluate ⟨2, 0⟩ false s = (.ok swept, v) ∧
      swept.statistics.total.toNat = 1 := by
  intro bob s w evaluate
  obtain ⟨imports, exports, sweeps, _⟩ := reports_account_for_batches w evaluate ⟨2, 0⟩ false s
  obtain ⟨imported, t, importRun, ofImport, _⟩ :=
    imports [annUnderBob, [], annUnderBob] (by decide)
  obtain ⟨exported, u, exportRun, ofExport⟩ := exports [bob] (by decide)
  have listed : Sync.staleObjects w.collection s.endpoint.name ⟨2, 0⟩ s = (.ok [bob], _) := rfl
  obtain ⟨swept, v, sweepRun, ofSweep⟩ := sweeps [bob] _ listed (by decide)
  have counts : (w.importAll evaluate [annUnderBob, [], annUnderBob] ⟨2, 0⟩ false s).1.toOption.map
      (fun report => (report.statistics, report.failures.map ObjectFailure.key)) =
        some (⟨2, 0, 1, 1, 0, 0, 1, 0⟩, ["record[1]"]) := by decide +kernel
  rw [importRun] at counts
  obtain ⟨statistics, keys⟩ := Prod.mk.inj (Option.some.inj counts)
  exact ⟨imported, exported, swept, t, u, v, importRun, statistics, keys, ofImport.total, exportRun,
    ofExport.total, sweepRun, ofSweep.total⟩

end Workflow

end RecordSync
