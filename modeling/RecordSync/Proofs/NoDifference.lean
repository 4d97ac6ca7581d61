import RecordSync.Proofs.Convergence
import RecordSync.Proofs.Mapping
import RecordSync.Proofs.Symmetry

set_option autoImplicit false

namespace RecordSync

namespace Value

theorem contained_of_agrees {v w : Value} (vKeyed : v.WellKeyed) (wKeyed : w.WellKeyed)
    (agree : v.agrees w = true) : ∀ item ∈ v.elements, item.containedIn w.elements = true := by
  have back : w.agrees v = true := agrees_symm vKeyed wKeyed ▸ agree
  cases v with
  | array items =>
    obtain ⟨others, rfl⟩ := eq_array_of_agrees back
    exact containedIn_of_agrees_array back
  | null => simp [elements]
  | _ => cases w <;> simp_all [elements, containedIn, agrees]

end Value

namespace Mapper

variable {m : Mapper} {mapped existing : Record}

theorem change?_of_agrees {ensure : Ensure} (present : ensure ≠ .absent) {v w : Value}
    (vKeyed : v.WellKeyed) (wKeyed : w.WellKeyed) (agree : v.agrees w = true) :
    change? ensure (some v) (some w) = none := by
  cases ensure with
  | absent => exact absurd rfl present
  | present => rfl
  | latest => simp [change?, agree]
  | merge =>
    have none : v.elements.filter (fun item => !item.containedIn w.elements) = [] := by
      rw [List.filter_eq_nil_iff]
      intro item member
      simp [Value.contained_of_agrees vKeyed wKeyed agree item member]
    simp [change?, none]

theorem diff_of_agreeing (image : m.Image mapped) (mappedKeyed : Record.WellKeyed mapped)
    (existingKeyed : Record.WellKeyed existing)
    (same : ∀ name ∈ m.names, name ∈ Keyed.keys mapped ↔ name ∈ Keyed.keys existing)
    (agree : ∀ name ∈ m.names, ∀ v w, Keyed.get? name mapped = some v →
      Keyed.get? name existing = some w → v.agrees w = true) :
    m.diff mapped existing = [] := by
  apply diff_eq_nil
  intro d member
  have declared : d.name ∈ m.names := List.mem_map_of_mem member
  have both := same d.name declared
  unfold changeOf wanted?
  cases found : Keyed.get? d.name mapped with
  | none =>
    have missing : Keyed.get? d.name existing = none := by
      rw [Keyed.get?_eq_none_iff] at found ⊢
      exact fun key => found (both.2 key)
    rw [missing]
    cases d.ensure <;> rfl
  | some v =>
    obtain ⟨present, nonempty, _⟩ := image.of_get? member found
    have key : d.name ∈ Keyed.keys existing :=
      both.1 (Keyed.mem_keys_of_mem (Keyed.mem_of_get? found))
    obtain ⟨w, there⟩ : ∃ w, Keyed.get? d.name existing = some w := by
      cases there : Keyed.get? d.name existing with
      | none => exact absurd key ((Keyed.get?_eq_none_iff _ _).1 there)
      | some w => exact ⟨w, rfl⟩
    rw [there, Option.filter_some, nonempty]
    exact change?_of_agrees present (mappedKeyed.get? found) (existingKeyed.get? there)
      (agree d.name declared v w found there)

theorem diff_self (image : m.Image mapped) (keyed : Record.WellKeyed mapped) :
    m.diff mapped mapped = [] :=
  diff_of_agreeing image keyed keyed (fun _ _ => Iff.rfl) fun _ _ _ _ found there =>
    Option.some.inj (found.symm.trans there) ▸ Value.agrees_self (keyed.get? found)

end Mapper

end RecordSync
