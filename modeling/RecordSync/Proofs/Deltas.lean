import Mathlib.Data.List.Induction
import RecordSync.Proofs.ByteOrder
import RecordSync.Proofs.Convergence

set_option autoImplicit false

namespace RecordSync

namespace Keyed

variable {α : Type}

theorem collect_concat (xs : Keyed α) (key : String) (value : α) :
    collect (xs ++ [(key, value)]) = insert key value (collect xs) := by
  simp [collect]

theorem distinct_collect (xs : Keyed α) : Distinct (collect xs) :=
  distinct_nil.foldl_insert

theorem keys_collect (xs : Keyed α) : keys (collect xs) = (keys xs).eraseDups := by
  induction xs using List.reverseRecOn with
  | nil => rfl
  | append_singleton xs entry ih =>
    obtain ⟨key, value⟩ := entry
    rw [collect_concat, keys_insert, ih, keys, keys, List.map_append, List.eraseDups_append]
    by_cases known : key ∈ xs.map Prod.fst <;> simp [List.removeAll, List.eraseDups_cons, known]

theorem get?_collect (xs : Keyed α) (name : String) :
    get? name (collect xs) = xs.reverse.lookup name := by
  induction xs using List.reverseRecOn with
  | nil => rfl
  | append_singleton xs entry ih =>
    obtain ⟨key, value⟩ := entry
    rw [collect_concat, get?_insert, ih, List.reverse_concat, List.lookup_cons]
    by_cases same : name = key
    · simp [same]
    · simp [same, beq_false_of_ne same]

theorem mem_keys_iff {key : String} {xs : Keyed α} : key ∈ keys xs ↔ ∃ v, get? key xs = some v := by
  rw [← Option.ne_none_iff_exists', ne_eq, get?_eq_none_iff, not_not]

end Keyed

namespace Delta

variable {changes : Changes}

structure Groups (d : Delta) (changes : Changes) : Prop where
  replace : ∀ name v,
    Keyed.get? name d.replace = some v ↔ Keyed.get? name changes = some (.replace v)
  clear : ∀ name, name ∈ d.clear ↔ Keyed.get? name changes = some .remove
  add : ∀ name v, Keyed.get? name d.add = some v ↔
    ∃ items, v = .array items ∧ Keyed.get? name changes = some (.add items)
  remove : d.remove = []
  apart : (Keyed.keys d.replace ++ d.clear ++ Keyed.keys d.add).Nodup
  names : ∀ name, name ∈ Keyed.keys d.replace ++ d.clear ++ Keyed.keys d.add ↔
    name ∈ Keyed.keys changes

def change? (d : Delta) (name : String) : Option Change :=
  match Keyed.get? name d.replace, Keyed.get? name d.add with
  | some v, _ => some (.replace v)
  | none, some (.array items) => some (.add items)
  | none, _ => if name ∈ d.clear then some .remove else none

theorem get?_replace_ofChanges (distinct : Keyed.Distinct changes) (name : String) :
    Keyed.get? name (ofChanges changes).replace = (Keyed.get? name changes).bind replaced := by
  simpa [ofChanges, empty] using (foldl_record distinct empty name).1

theorem get?_add_ofChanges (distinct : Keyed.Distinct changes) (name : String) :
    Keyed.get? name (ofChanges changes).add = (Keyed.get? name changes).bind added := by
  simpa [ofChanges, empty] using (foldl_record distinct empty name).2.1

theorem mem_clear_ofChanges (distinct : Keyed.Distinct changes) {name : String} :
    name ∈ (ofChanges changes).clear ↔ Keyed.get? name changes = some .remove := by
  simpa [ofChanges, empty] using (foldl_record distinct empty name).2.2

theorem get?_replace_eq_some_iff (distinct : Keyed.Distinct changes) {name : String} {v : Value} :
    Keyed.get? name (ofChanges changes).replace = some v ↔
      Keyed.get? name changes = some (.replace v) := by
  rw [get?_replace_ofChanges distinct]
  rcases Keyed.get? name changes with _ | ⟨_ | _ | _⟩ <;> simp [replaced]

theorem get?_add_eq_some_iff (distinct : Keyed.Distinct changes) {name : String} {v : Value} :
    Keyed.get? name (ofChanges changes).add = some v ↔
      ∃ items, v = .array items ∧ Keyed.get? name changes = some (.add items) := by
  rw [get?_add_ofChanges distinct]
  rcases Keyed.get? name changes with _ | ⟨_ | _ | _⟩ <;> simp [added, eq_comm]

theorem mem_keys_replace_ofChanges (distinct : Keyed.Distinct changes) {name : String} :
    name ∈ Keyed.keys (ofChanges changes).replace ↔
      ∃ v, Keyed.get? name changes = some (.replace v) := by
  simp only [Keyed.mem_keys_iff, get?_replace_eq_some_iff distinct]

theorem mem_keys_add_ofChanges (distinct : Keyed.Distinct changes) {name : String} :
    name ∈ Keyed.keys (ofChanges changes).add ↔
      ∃ items, Keyed.get? name changes = some (.add items) := by
  simp [Keyed.mem_keys_iff, get?_add_eq_some_iff distinct]

theorem foldl_record_clear (changes : Changes) (d : Delta) :
    (changes.foldl record d).remove = d.remove ∧ (changes.foldl record d).clear =
      d.clear ++ Keyed.keys (changes.filter fun entry => entry.2 = .remove) := by
  induction changes generalizing d with
  | nil => simp
  | cons entry rest ih =>
    obtain ⟨key, change⟩ := entry
    rw [List.foldl_cons, (ih _).1, (ih _).2]
    cases change <;> simp [record, insertReplace, appendClear, insertAdd]

theorem nodup_clear_ofChanges (distinct : Keyed.Distinct changes) :
    (ofChanges changes).clear.Nodup := by
  rw [ofChanges, (foldl_record_clear changes empty).2]
  exact distinct.sublist (List.filter_sublist.map Prod.fst)

theorem nodup_ofChanges (distinct : Keyed.Distinct changes) :
    (Keyed.keys (ofChanges changes).replace ++ (ofChanges changes).clear ++
      Keyed.keys (ofChanges changes).add).Nodup := by
  obtain ⟨replace, add⟩ :=
    distinct_foldl_record changes (d := empty) Keyed.distinct_nil Keyed.distinct_nil
  rw [List.nodup_append, List.nodup_append]
  -- A name in two of the groups would have two changes.
  refine ⟨⟨replace, nodup_clear_ofChanges distinct, ?_⟩, add, ?_⟩
  · rintro name inReplace _ inClear rfl
    obtain ⟨v, change⟩ := (mem_keys_replace_ofChanges distinct).1 inReplace
    simp [(mem_clear_ofChanges distinct).1 inClear] at change
  · rintro name earlier _ inAdd rfl
    obtain ⟨items, change⟩ := (mem_keys_add_ofChanges distinct).1 inAdd
    rw [List.mem_append, mem_keys_replace_ofChanges distinct, mem_clear_ofChanges distinct,
      change] at earlier
    simp at earlier

theorem mem_groups_ofChanges (distinct : Keyed.Distinct changes) {name : String} :
    name ∈ Keyed.keys (ofChanges changes).replace ++ (ofChanges changes).clear ++
      Keyed.keys (ofChanges changes).add ↔ name ∈ Keyed.keys changes := by
  rw [List.mem_append, List.mem_append, mem_keys_replace_ofChanges distinct,
    mem_clear_ofChanges distinct, mem_keys_add_ofChanges distinct, Keyed.mem_keys_iff]
  rcases Keyed.get? name changes with _ | ⟨_ | _ | _⟩ <;> simp

theorem groups_ofChanges (distinct : Keyed.Distinct changes) : (ofChanges changes).Groups changes where
  replace _ _ := get?_replace_eq_some_iff distinct
  clear _ := mem_clear_ofChanges distinct
  add _ _ := get?_add_eq_some_iff distinct
  remove := (foldl_record_clear changes empty).1
  apart := nodup_ofChanges distinct
  names _ := mem_groups_ofChanges distinct

theorem change?_ofChanges (distinct : Keyed.Distinct changes) (name : String) :
    (ofChanges changes).change? name = Keyed.get? name changes := by
  simp only [change?, get?_replace_ofChanges distinct, get?_add_ofChanges distinct,
    mem_clear_ofChanges distinct]
  rcases Keyed.get? name changes with _ | ⟨_ | _ | _⟩ <;> simp [replaced, added]

theorem mem_affected_ofChanges (distinct : Keyed.Distinct changes) {name : String} :
    name ∈ (ofChanges changes).affected ↔ name ∈ Keyed.keys changes := by
  rw [mem_affected, ← mem_groups_ofChanges distinct, names, (groups_ofChanges distinct).remove]
  simp only [Keyed.keys_nil, List.append_nil, List.mem_append]
  tauto

theorem isEmpty_iff (d : Delta) : d.isEmpty = true ↔ d.names = [] := by
  simp [isEmpty, names, Keyed.keys, and_assoc]

theorem isEmpty_ofChanges (distinct : Keyed.Distinct changes) :
    (ofChanges changes).isEmpty = true ↔ changes = [] := by
  rw [isEmpty_iff, List.eq_nil_iff_forall_not_mem]
  simp only [← mem_affected, mem_affected_ofChanges distinct]
  rw [← List.eq_nil_iff_forall_not_mem, Keyed.keys, List.map_eq_nil_iff]

-- Whatever is recorded, and in whatever order, the changes hold the last one of each attribute in
-- the order in which attributes first came, and the delta of them says the same of the same
-- attributes.
theorem delta_loses_and_invents_nothing (inserts : List (String × Change)) :
    let changes := Keyed.collect inserts
    let d := ofChanges changes
    ((Keyed.keys changes).Nodup ∧ Keyed.keys changes = (inserts.map Prod.fst).eraseDups ∧
      ∀ name, Keyed.get? name changes = inserts.reverse.lookup name) ∧
    d.Groups changes ∧ (∀ name, d.change? name = Keyed.get? name changes) ∧
    (d.affected.Pairwise (fun a b => Text.bytes a < Text.bytes b) ∧
      ∀ name, name ∈ d.affected ↔ name ∈ Keyed.keys changes) ∧
    (d.isEmpty = true ↔ changes = []) := by
  have distinct := Keyed.distinct_collect inserts
  exact ⟨⟨distinct, Keyed.keys_collect inserts, Keyed.get?_collect inserts⟩,
    groups_ofChanges distinct, change?_ofChanges distinct,
    ⟨pairwise_affected _, fun name => mem_affected_ofChanges distinct⟩, isEmpty_ofChanges distinct⟩

end Delta

end RecordSync
