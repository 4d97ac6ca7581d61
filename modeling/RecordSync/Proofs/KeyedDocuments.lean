import RecordSync.Document.Path
import RecordSync.Proofs.Entries

set_option autoImplicit false

namespace RecordSync

namespace Value

theorem induction {motive : Value → Prop} (null : motive .null) (bool : ∀ b, motive (.bool b))
    (number : ∀ n, motive (.number n)) (string : ∀ s, motive (.string s))
    (array : ∀ items, (∀ item ∈ items, motive item) → motive (.array items))
    (object : ∀ fields : Record, (∀ entry ∈ fields, motive entry.2) → motive (.object fields))
    (v : Value) : motive v := by
  refine @Value.rec motive (fun items => ∀ item ∈ items, motive item)
    (fun fields => ∀ entry ∈ fields, motive entry.2) (fun entry => motive entry.2)
    null bool number string array object ?_ ?_ ?_ ?_ ?_ v
  · exact fun _ member => nomatch member
  · intro head tail first rest item member
    rcases List.mem_cons.1 member with same | later
    · exact same ▸ first
    · exact rest item later
  · exact fun _ member => nomatch member
  · intro head tail first rest entry member
    rcases List.mem_cons.1 member with same | later
    · exact same ▸ first
    · exact rest entry later
  · exact fun _ _ value => value

theorem wellKeyedItems_iff (items : List Value) :
    WellKeyedItems items ↔ ∀ item ∈ items, item.WellKeyed := by
  induction items with
  | nil => simp [WellKeyedItems]
  | cons item rest ih => simp [WellKeyedItems, ih]

theorem wellKeyedFields_iff (fields : Record) :
    WellKeyedFields fields ↔ ∀ entry ∈ fields, entry.2.WellKeyed := by
  induction fields with
  | nil => simp [WellKeyedFields]
  | cons entry rest ih => simp [WellKeyedFields, ih]

@[simp] theorem wellKeyed_null : WellKeyed .null := trivial

@[simp] theorem wellKeyed_bool (b : Bool) : WellKeyed (.bool b) := trivial

@[simp] theorem wellKeyed_number (n : Number) : WellKeyed (.number n) := trivial

@[simp] theorem wellKeyed_string (s : String) : WellKeyed (.string s) := trivial

theorem wellKeyed_array_iff (items : List Value) :
    WellKeyed (.array items) ↔ ∀ item ∈ items, item.WellKeyed := by
  rw [WellKeyed, wellKeyedItems_iff]

end Value

def Record.WellKeyed (r : Record) : Prop := (Value.object r).WellKeyed

namespace Record

theorem wellKeyed_iff (r : Record) :
    WellKeyed r ↔ Keyed.Distinct r ∧ ∀ entry ∈ r, entry.2.WellKeyed := by
  rw [WellKeyed, Value.WellKeyed, Value.wellKeyedFields_iff]

theorem WellKeyed.distinct {r : Record} (keyed : WellKeyed r) : Keyed.Distinct r :=
  ((wellKeyed_iff r).1 keyed).1

theorem WellKeyed.value {r : Record} (keyed : WellKeyed r) {name : String} {v : Value}
    (member : (name, v) ∈ r) : v.WellKeyed :=
  ((wellKeyed_iff r).1 keyed).2 (name, v) member

theorem WellKeyed.get? {r : Record} (keyed : WellKeyed r) {name : String} {v : Value}
    (found : Keyed.get? name r = some v) : v.WellKeyed :=
  keyed.value (Keyed.mem_of_get? found)

theorem WellKeyed.single {name : String} {v : Value} (value : v.WellKeyed) :
    WellKeyed [(name, v)] := by
  simp [wellKeyed_iff, Keyed.distinct_cons, value]

theorem WellKeyed.assign {r : Record} (keyed : WellKeyed r) (name : String) {value : Option Value}
    (new : ∀ v, value = some v → v.WellKeyed) : WellKeyed (Keyed.assign name value r) := by
  rw [wellKeyed_iff]
  refine ⟨keyed.distinct.assign name value, ?_⟩
  intro entry member
  rcases Keyed.mem_assign member with ⟨v, wanted, rfl⟩ | before
  · exact new v wanted
  · exact keyed.value before

end Record

namespace Path

def Cursor.WellKeyed : Cursor → Prop
  | .here v => v.WellKeyed
  | .inside fields _ => Record.WellKeyed fields

theorem Cursor.wellKeyed_enter {segment : String} {v : Value} {c : Cursor} (keyed : v.WellKeyed)
    (entered : Cursor.enter segment v = some c) : c.WellKeyed := by
  cases v with
  | object fields =>
    cases entered
    exact keyed
  | array items =>
    simp only [Cursor.enter, Option.bind_eq_some_iff, Option.map_eq_some_iff] at entered
    obtain ⟨i, _, item, found, rfl⟩ := entered
    exact (Value.wellKeyed_array_iff items).1 keyed item (List.mem_of_getElem? found)
  | _ => cases entered

theorem Cursor.wellKeyed_steps {segment : String} {c next : Cursor} (keyed : c.WellKeyed)
    (step : next ∈ c.steps segment) : next.WellKeyed := by
  cases c with
  | here v => exact Cursor.wellKeyed_enter keyed (Option.mem_toList.1 step)
  | inside fields key =>
    rcases List.mem_cons.1 step with rfl | step
    · exact keyed
    · obtain ⟨v, found, entered⟩ := Option.bind_eq_some_iff.1 (Option.mem_toList.1 step)
      exact Cursor.wellKeyed_enter (Record.WellKeyed.get? keyed found) entered

theorem Cursor.wellKeyed_find {segments : List String} {c : Cursor} {v : Value}
    (keyed : c.WellKeyed) (found : Cursor.find segments c = some v) : v.WellKeyed := by
  induction segments generalizing c with
  | nil =>
    cases c with
    | here w => exact Option.some.inj found ▸ keyed
    | inside fields key => exact Record.WellKeyed.get? keyed found
  | cons segment rest ih =>
    obtain ⟨next, step, found⟩ := List.exists_of_findSome?_eq_some found
    exact ih (Cursor.wellKeyed_steps keyed step) found

theorem wellKeyed_getIn {r : Record} {path : String} {v : Value} (keyed : Record.WellKeyed r)
    (found : getIn r path = some v) : v.WellKeyed := by
  obtain ⟨parts, _, found⟩ := Option.bind_eq_some_iff.1 found
  exact Cursor.wellKeyed_find (c := .here (.object r)) keyed found

end Path

end RecordSync
