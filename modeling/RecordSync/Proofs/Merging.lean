import RecordSync.Proofs.Mapping
import RecordSync.Proofs.MergeSteps
import RecordSync.Proofs.PlainNames

set_option autoImplicit false

namespace RecordSync

namespace Mapper

def mergedValue (ensure : Ensure) (mapped current : Option Value) : Option Value :=
  let incoming := mapped.filter fun v => !v.isEmpty
  match ensure with
  | .absent => none
  | .latest => incoming
  | .present => current.or incoming
  | .merge =>
    match incoming with
    | some v => some ((current.map fun c => c.union v).getD v)
    | none => current

variable {m : Mapper} {d : AttributeDefinition} {mapped base : Record}

theorem mergeOne_eq_assign (plain : Path.Plain d.name) :
    mergeOne mapped base d = Keyed.assign d.name
      (mergedValue d.ensure (Keyed.get? d.name mapped) (Keyed.get? d.name base)) base := by
  -- What is left alone counts as written with its own value.
  have kept : Keyed.assign d.name (Keyed.get? d.name base) base = base := Keyed.assign_get? _ _
  unfold mergeOne mergedValue
  simp only [Path.getIn_of_plain plain, Path.setIn_of_plain plain, Path.removeIn_of_plain plain]
  cases d.ensure with
  | absent => rfl
  | latest => cases (Keyed.get? d.name mapped).filter _ <;> rfl
  | present =>
    cases current : Keyed.get? d.name base with
    | none => cases (Keyed.get? d.name mapped).filter _ <;> rfl
    | some c => simpa [current] using kept.symm
  | merge =>
    cases (Keyed.get? d.name mapped).filter _ with
    | none => exact kept.symm
    | some v => cases Keyed.get? d.name base <;> rfl

theorem wellKeyed_mergedValue {ensure : Ensure} {wanted current : Option Value}
    (wantedKeyed : ∀ v, wanted = some v → v.WellKeyed)
    (currentKeyed : ∀ v, current = some v → v.WellKeyed) :
    ∀ v, mergedValue ensure wanted current = some v → v.WellKeyed := by
  intro v left
  cases ensure with
  | absent => cases left
  | latest => exact wantedKeyed v (Option.filter_eq_some_iff.1 left).1
  | present =>
    rcases Option.or_eq_some_iff.1 left with kept | ⟨_, new⟩
    · exact currentKeyed v kept
    · exact wantedKeyed v (Option.filter_eq_some_iff.1 new).1
  | merge =>
    simp only [mergedValue] at left
    split at left
    · rename_i w incoming
      have wKeyed := wantedKeyed w (Option.filter_eq_some_iff.1 incoming).1
      cases current with
      | none => exact Option.some.inj left ▸ wKeyed
      | some c => exact Option.some.inj left ▸ (currentKeyed c rfl).union wKeyed
    · exact currentKeyed v left

theorem mergedValue_mergedValue {ensure : Ensure} {wanted current : Option Value}
    (joined : ensure = .merge → ∀ v, wanted = some v → v.isArray = true ∧ v.WellKeyed) :
    mergedValue ensure wanted (mergedValue ensure wanted current) =
      mergedValue ensure wanted current := by
  cases ensure with
  | absent | latest => rfl
  | present => cases current <;> simp [mergedValue]
  | merge =>
    simp only [mergedValue]
    cases incoming : wanted.filter fun v => !v.isEmpty with
    | none => rfl
    | some v =>
      obtain ⟨array, keyed⟩ := joined rfl v (Option.filter_eq_some_iff.1 incoming).1
      cases current with
      | none => simp [Value.union_self array keyed]
      | some c => simp [Value.union_union_self keyed]

section Fold

variable {ds : List AttributeDefinition}

theorem writes_mergeOne (plain : Path.Plain d.name) :
    Keyed.Writes (mergeOne mapped · d) d.name
      (mergedValue d.ensure (Keyed.get? d.name mapped)) := by
  have assigns : (mergeOne mapped · d) = fun base => Keyed.assign d.name
      (mergedValue d.ensure (Keyed.get? d.name mapped) (Keyed.get? d.name base)) base :=
    funext fun _ => mergeOne_eq_assign plain
  rw [assigns]
  exact Keyed.writes_assign d.name _

theorem foldl_eq_self (plain : ∀ e ∈ ds, Path.Plain e.name)
    (fixed : ∀ e ∈ ds, mergedValue e.ensure (Keyed.get? e.name mapped) (Keyed.get? e.name base) =
      Keyed.get? e.name base) : ds.foldl (mergeOne mapped) base = base := by
  induction ds with
  | nil => rfl
  | cons e ds ih =>
    obtain ⟨first, later⟩ := List.forall_mem_cons.1 plain
    obtain ⟨same, rest⟩ := List.forall_mem_cons.1 fixed
    rw [List.foldl_cons, mergeOne_eq_assign first, same, Keyed.assign_get?]
    exact ih later rest

end Fold

section Merge

variable (plain : m.Plain) (sound : m.Sound)

include plain sound

theorem get?_merge (distinct : Keyed.Distinct base) (member : d ∈ m.definitions) :
    Keyed.get? d.name (m.merge mapped base) =
      mergedValue d.ensure (Keyed.get? d.name mapped) (Keyed.get? d.name base) :=
  Keyed.get?_foldl_writes (fun _ member => writes_mergeOne (plain.path sound member)) distinct
    m.distinct member

theorem distinct_merge (distinct : Keyed.Distinct base) : Keyed.Distinct (m.merge mapped base) :=
  Keyed.distinct_foldl_writes (fun _ member => writes_mergeOne (plain.path sound member)) distinct

theorem merge_eq_self
    (fixed : ∀ d ∈ m.definitions,
      mergedValue d.ensure (Keyed.get? d.name mapped) (Keyed.get? d.name base) =
        Keyed.get? d.name base) : m.merge mapped base = base :=
  foldl_eq_self (fun _ => plain.path sound) fixed

theorem merge_merge (image : m.Image mapped) (mappedKeyed : Record.WellKeyed mapped)
    (distinct : Keyed.Distinct base) :
    m.merge mapped (m.merge mapped base) = m.merge mapped base := by
  apply merge_eq_self plain sound
  intro d member
  rw [get?_merge plain sound distinct member]
  apply mergedValue_mergedValue
  intro merges v found
  exact ⟨image.isArray_of_merge sound member merges found, mappedKeyed.get? found⟩

theorem merge_self (image : m.Image mapped) (mappedKeyed : Record.WellKeyed mapped) :
    m.merge mapped mapped = mapped := by
  apply merge_eq_self plain sound
  intro d member
  cases found : Keyed.get? d.name mapped with
  | none => cases d.ensure <;> rfl
  | some v =>
    obtain ⟨present, nonempty, _⟩ := image.of_get? member found
    have incoming : (some v).filter (fun v => !v.isEmpty) = some v := by
      simp [nonempty]
    cases ensure : d.ensure with
    | absent => exact absurd ensure present
    | latest => exact incoming
    | present => rfl
    | merge =>
      have array := image.isArray_of_merge sound member ensure found
      simp only [mergedValue, incoming]
      exact congrArg some (Value.union_self array (mappedKeyed.get? found))

end Merge

end Mapper

end RecordSync
