import RecordSync.Attribute.Difference
import RecordSync.Endpoint.Basic
import RecordSync.Proofs.Agreement

set_option autoImplicit false

namespace RecordSync

def Change.applied (current : Option Value) : Change → Option Value
  | .replace v => some v
  | .remove => none
  | .add items => some ((current.getD .null).union (.array items))

def Change.appliedTo (change : Option Change) (current : Option Value) : Option Value :=
  match change with
  | some c => c.applied current
  | none => current

namespace Delta

def replaced : Change → Option Value
  | .replace v => some v
  | _ => none

def added : Change → Option Value
  | .add items => some (.array items)
  | _ => none

theorem get?_replace_record (d : Delta) (entry : String × Change) (name : String) :
    Keyed.get? name (d.record entry).replace =
      ((if name = entry.1 then some entry.2 else none).bind replaced).or
        (Keyed.get? name d.replace) := by
  obtain ⟨key, change⟩ := entry
  by_cases same : name = key <;> cases change <;>
    simp [record, insertReplace, appendClear, insertAdd, replaced, Keyed.get?_insert, same]

theorem get?_add_record (d : Delta) (entry : String × Change) (name : String) :
    Keyed.get? name (d.record entry).add =
      ((if name = entry.1 then some entry.2 else none).bind added).or (Keyed.get? name d.add) := by
  obtain ⟨key, change⟩ := entry
  by_cases same : name = key <;> cases change <;>
    simp [record, insertReplace, appendClear, insertAdd, added, Keyed.get?_insert, same]

theorem mem_clear_record (d : Delta) (entry : String × Change) (name : String) :
    name ∈ (d.record entry).clear ↔
      name ∈ d.clear ∨ (if name = entry.1 then some entry.2 else none) = some .remove := by
  obtain ⟨key, change⟩ := entry
  by_cases same : name = key <;> cases change <;>
    simp [record, insertReplace, appendClear, insertAdd, same]

theorem foldl_record {changes : Changes} (distinct : Keyed.Distinct changes) (d : Delta)
    (name : String) :
    Keyed.get? name (changes.foldl record d).replace =
        ((Keyed.get? name changes).bind replaced).or (Keyed.get? name d.replace) ∧
      Keyed.get? name (changes.foldl record d).add =
        ((Keyed.get? name changes).bind added).or (Keyed.get? name d.add) ∧
      (name ∈ (changes.foldl record d).clear ↔
        name ∈ d.clear ∨ Keyed.get? name changes = some .remove) := by
  -- A name is recorded once, in the group of its change, so the later changes leave it alone.
  induction changes generalizing d with
  | nil => simp
  | cons entry rest ih =>
    obtain ⟨key, change⟩ := entry
    obtain ⟨fresh, distinct⟩ := (Keyed.distinct_cons key change rest).1 distinct
    obtain ⟨replace, add, clear⟩ := ih distinct (d.record (key, change))
    rw [List.foldl_cons, replace, add, clear, get?_replace_record, get?_add_record,
      mem_clear_record, Keyed.get?_cons]
    by_cases same : name = key
    · have none := (Keyed.get?_eq_none_iff name rest).2 (same ▸ fresh)
      simp [same, same ▸ none]
    · simp [same, Ne.symm same]

theorem distinct_record {d : Delta} (replace : Keyed.Distinct d.replace)
    (add : Keyed.Distinct d.add) (entry : String × Change) :
    Keyed.Distinct (d.record entry).replace ∧ Keyed.Distinct (d.record entry).add := by
  obtain ⟨key, change⟩ := entry
  cases change with
  | replace v => exact ⟨replace.insert key v, add⟩
  | remove => exact ⟨replace, add⟩
  | add items => exact ⟨replace, add.insert key _⟩

theorem distinct_foldl_record (changes : Changes) {d : Delta} (replace : Keyed.Distinct d.replace)
    (add : Keyed.Distinct d.add) :
    Keyed.Distinct (changes.foldl record d).replace ∧
      Keyed.Distinct (changes.foldl record d).add := by
  induction changes generalizing d with
  | nil => exact ⟨replace, add⟩
  | cons entry rest ih =>
    obtain ⟨replace, add⟩ := distinct_record replace add entry
    exact ih replace add

end Delta

namespace Endpoint

variable {row : Record}

theorem writes_put (put : Option Value → Value → Value) (entry : String × Value) :
    Keyed.Writes
      (fun row : Record => Keyed.insert entry.1 (put (Keyed.get? entry.1 row) entry.2) row)
      entry.1 fun current => some (put current entry.2) :=
  Keyed.writes_assign entry.1 fun current => some (put current entry.2)

theorem get?_foldl_put {values : Record} (distinct : Keyed.Distinct values)
    (rowDistinct : Keyed.Distinct row) (put : Option Value → Value → Value) (name : String) :
    Keyed.get? name (values.foldl (fun row (k, v) =>
        Keyed.insert k (put (Keyed.get? k row) v) row) row) =
      ((Keyed.get? name values).map (put (Keyed.get? name row))).or (Keyed.get? name row) := by
  cases found : Keyed.get? name values with
  | none =>
    exact Keyed.get?_foldl_writes_of_not_mem (fun entry _ => writes_put put entry) rowDistinct
      ((Keyed.get?_eq_none_iff name values).1 found)
  | some v =>
    exact Keyed.get?_foldl_writes (fun entry _ => writes_put put entry) rowDistinct distinct
      (Keyed.mem_of_get? found)

theorem get?_foldl_erase (names : List String) (distinct : Keyed.Distinct row) (name : String) :
    Keyed.Distinct (names.foldl (fun row k => Keyed.erase k row) row) ∧
      Keyed.get? name (names.foldl (fun row k => Keyed.erase k row) row) =
        if name ∈ names then none else Keyed.get? name row := by
  induction names generalizing row with
  | nil => simp [distinct]
  | cons key rest ih =>
    obtain ⟨kept, found⟩ := ih (distinct.erase key)
    refine ⟨kept, ?_⟩
    rw [List.foldl_cons, found, Keyed.get?_erase distinct]
    by_cases same : name = key <;> by_cases later : name ∈ rest <;> simp [same, later]

theorem get?_applyDelta {changes : Changes} (distinct : Keyed.Distinct changes)
    (rowDistinct : Keyed.Distinct row) (name : String) :
    Keyed.get? name (applyDelta (Delta.ofChanges changes) row) =
      Change.appliedTo (Keyed.get? name changes) (Keyed.get? name row) := by
  obtain ⟨replace, add, clear⟩ := Delta.foldl_record distinct Delta.empty name
  obtain ⟨replaceDistinct, addDistinct⟩ := Delta.distinct_foldl_record changes
    (d := Delta.empty) Keyed.distinct_nil Keyed.distinct_nil
  have inserted : Keyed.Distinct (((changes.foldl Delta.record Delta.empty).replace).foldl
      (fun row (k, v) => Keyed.insert k v row) row) := rowDistinct.foldl_insert
  have erased := get?_foldl_erase (changes.foldl Delta.record Delta.empty).clear inserted
  unfold applyDelta Delta.ofChanges
  dsimp only
  rw [get?_foldl_put addDistinct (erased name).1 fun current v => (current.getD .null).union v,
    (erased name).2, get?_foldl_put replaceDistinct rowDistinct fun _ v => v, replace, add]
  simp only [clear]
  cases Keyed.get? name changes with
  | none => simp [Delta.empty, Change.appliedTo]
  | some change =>
    cases change <;>
      simp [Delta.empty, Delta.replaced, Delta.added, Change.appliedTo, Change.applied]

end Endpoint

namespace Mapper

variable {m : Mapper} {d : AttributeDefinition} {mapped existing : Record}

def changeOf (mapped existing : Record) (d : AttributeDefinition) : Option Change :=
  change? d.ensure (wanted? mapped d.name) (Keyed.get? d.name existing)

def addChange (mapped existing : Record) (changes : Changes) (d : AttributeDefinition) : Changes :=
  match changeOf mapped existing d with
  | some change => Keyed.insert d.name change changes
  | none => changes

theorem diff_eq_foldl (m : Mapper) (mapped existing : Record) :
    m.diff mapped existing = m.definitions.foldl (addChange mapped existing) [] := rfl

theorem writes_addChange (mapped existing : Record) (d : AttributeDefinition) :
    Keyed.Writes (addChange mapped existing · d) d.name (changeOf mapped existing d).or := by
  unfold addChange
  cases changeOf mapped existing d with
  | some change => exact Keyed.writes_assign d.name fun _ => some change
  | none => exact ⟨id, fun _ _ => (ite_self _).symm⟩

theorem diff_eq_nil (settled : ∀ d ∈ m.definitions, changeOf mapped existing d = none) :
    m.diff mapped existing = [] := by
  rw [diff_eq_foldl]
  generalize m.definitions = ds at settled
  induction ds with
  | nil => rfl
  | cons e ds ih =>
    obtain ⟨first, later⟩ := List.forall_mem_cons.1 settled
    rw [List.foldl_cons, addChange, first]
    exact ih later

theorem distinct_diff : Keyed.Distinct (m.diff mapped existing) :=
  Keyed.distinct_foldl_writes (fun d _ => writes_addChange mapped existing d) Keyed.distinct_nil

theorem get?_diff (member : d ∈ m.definitions) :
    Keyed.get? d.name (m.diff mapped existing) = changeOf mapped existing d := by
  rw [diff_eq_foldl, Keyed.get?_foldl_writes (fun d _ => writes_addChange mapped existing d)
    Keyed.distinct_nil m.distinct member]
  exact Option.or_none

def converged (m : Mapper) (mapped existing : Record) : Record :=
  Endpoint.applyDelta (Delta.ofChanges (m.diff mapped existing)) existing

theorem get?_converged (distinct : Keyed.Distinct existing) (member : d ∈ m.definitions) :
    Keyed.get? d.name (m.converged mapped existing) =
      Change.appliedTo (changeOf mapped existing d) (Keyed.get? d.name existing) := by
  rw [converged, Endpoint.get?_applyDelta distinct_diff distinct, get?_diff member]

theorem get?_converged_of_not_mem (distinct : Keyed.Distinct existing) {name : String}
    (undeclared : name ∉ m.names) :
    Keyed.get? name (m.converged mapped existing) = Keyed.get? name existing := by
  have changes : Keyed.get? name (m.diff mapped existing) = none :=
    Keyed.get?_foldl_writes_of_not_mem (fun d _ => writes_addChange mapped existing d)
      Keyed.distinct_nil undeclared
  rw [converged, Endpoint.get?_applyDelta distinct_diff distinct, changes]
  rfl

theorem missing_after_union {value : Value} (keyed : value.WellKeyed) (current : Value) :
    value.elements.filter (fun item => !item.containedIn
      (current.union (.array (value.elements.filter fun item =>
        !item.containedIn current.elements))).elements) = [] := by
  rw [List.filter_eq_nil_iff]
  intro item member
  rw [Bool.not_eq_true', Bool.not_eq_false]
  by_cases there : item.containedIn current.elements = true
  · exact Value.containedIn_append_left _ there
  · have missing : item ∈ value.elements.filter fun item => !item.containedIn current.elements :=
      List.mem_filter.2 ⟨member, by simpa using there⟩
    refine Value.containedIn_append_missingFrom ?_ item missing
    exact fun item member => keyed.elements item (List.mem_filter.1 member).1

theorem change?_appliedTo (ensure : Ensure) {wanted : Option Value}
    (keyed : ∀ v, wanted = some v → v.WellKeyed) (current : Option Value) :
    change? ensure wanted (Change.appliedTo (change? ensure wanted current) current) = none := by
  cases ensure with
  | present => cases wanted <;> cases current <;> rfl
  | absent => cases current <;> rfl
  | latest =>
    cases wanted with
    | none => cases current <;> rfl
    | some value =>
      have self : value.agrees value = true := Value.agrees_self (keyed value rfl)
      cases current with
      | none => simp [change?, Change.appliedTo, Change.applied, self]
      | some current =>
        by_cases agree : value.agrees current = true <;>
          simp [change?, Change.appliedTo, Change.applied, agree, self]
  | merge =>
    -- What is missing was joined, be it to nothing, to a scalar or to an array.
    cases wanted with
    | none => rfl
    | some value =>
      have there : (current.map Value.elements).getD [] = (current.getD .null).elements := by
        cases current <;> rfl
      have joined := missing_after_union (keyed value rfl) (current.getD .null)
      simp only [change?, there]
      split
      · rename_i none
        simp [Change.appliedTo, there, none]
      · simpa [Change.appliedTo, Change.applied] using joined

theorem wellKeyed_wanted? (keyed : Record.WellKeyed mapped) (name : String) :
    ∀ v, wanted? mapped name = some v → v.WellKeyed :=
  fun _ wanted => keyed.get? (Option.filter_eq_some_iff.1 wanted).1

theorem diff_converged (keyed : Record.WellKeyed mapped) (distinct : Keyed.Distinct existing) :
    m.diff mapped (m.converged mapped existing) = [] := by
  apply diff_eq_nil
  intro d member
  unfold changeOf
  rw [get?_converged distinct member]
  exact change?_appliedTo d.ensure (wellKeyed_wanted? keyed d.name) _

theorem get?_converged_of_present (distinct : Keyed.Distinct existing) (member : d ∈ m.definitions)
    (present : d.ensure = .present) {v : Value} (held : Keyed.get? d.name existing = some v) :
    Keyed.get? d.name (m.converged mapped existing) = some v := by
  rw [get?_converged distinct member, changeOf, present, held]
  cases wanted? mapped d.name <;> rfl

-- A difference that is applied leaves no difference, and changes neither undeclared attributes nor
-- those that only have to exist and did.
theorem applied_difference_converges (m : Mapper) {mapped existing : Record}
    (keyed : Record.WellKeyed mapped) (distinct : Keyed.Distinct existing) :
    m.diff mapped (Endpoint.applyDelta (Delta.ofChanges (m.diff mapped existing)) existing) = [] ∧
      (∀ name, name ∉ m.names →
        Keyed.get? name
            (Endpoint.applyDelta (Delta.ofChanges (m.diff mapped existing)) existing) =
          Keyed.get? name existing) ∧
      ∀ d ∈ m.definitions, d.ensure = .present → ∀ v, Keyed.get? d.name existing = some v →
        Keyed.get? d.name
            (Endpoint.applyDelta (Delta.ofChanges (m.diff mapped existing)) existing) = some v :=
  ⟨diff_converged keyed distinct, fun _ => get?_converged_of_not_mem distinct,
    fun _ member present _ => get?_converged_of_present distinct member present⟩

theorem applied_difference_converges_on_scalar :
    let m : Mapper := ⟨[⟨"groups", [], .array, .merge, false, [], none, none, none⟩,
      ⟨"login", [], .string, .present, true, [], none, none, none⟩], by decide⟩
    let mapped : Record :=
      [("groups", .array [.string "a", .string "b", .string "b"]), ("login", .string "new")]
    let existing : Record :=
      [("login", .string "old"), ("groups", .string "a"), ("note", .null)]
    m.diff mapped existing ≠ [] ∧
      m.diff mapped (Endpoint.applyDelta (Delta.ofChanges (m.diff mapped existing)) existing) = [] ∧
      Keyed.get? "note"
        (Endpoint.applyDelta (Delta.ofChanges (m.diff mapped existing)) existing) = some .null ∧
      Keyed.get? "login"
        (Endpoint.applyDelta (Delta.ofChanges (m.diff mapped existing)) existing) =
          some (.string "old") := by
  intro m mapped existing
  have keyed : Record.WellKeyed mapped := by
    simp [mapped, Record.wellKeyed_iff, Keyed.distinct_cons, Value.wellKeyed_array_iff]
  have distinct : Keyed.Distinct existing := by
    simp [existing, Keyed.distinct_cons]
  obtain ⟨settled, undeclared, kept⟩ := applied_difference_converges m keyed distinct
  refine ⟨by decide, settled, undeclared "note" (by decide), ?_⟩
  exact kept ⟨"login", [], .string, .present, true, [], none, none, none⟩ (by simp [m]) rfl _ rfl

end Mapper

end RecordSync
