import RecordSync.Proofs.SamePolicy

set_option autoImplicit false

namespace RecordSync

namespace Value

theorem missingFrom_nil_eq_self_iff (items : List Value) :
    missingFrom [] items = items ↔ items.Pairwise fun x y => x.agrees y = false := by
  constructor
  · intro whole
    rw [← whole]
    exact missingFrom_apart [] items
  · intro apart
    rw [missingFrom_eq_filter apart, List.filter_eq_self]
    exact fun _ _ => rfl

end Value

def Changes.additions (changes : Changes) (name : String) : List Value :=
  match Keyed.get? name changes with
  | some (.add items) => items
  | _ => []

namespace Mapper

variable {m : Mapper} {d : AttributeDefinition} {mapped : Record} {v : Value}

theorem change?_merge (wanted : Value) (current : Option Value) :
    change? .merge (some wanted) current =
      (let missing := wanted.elements.filter fun item =>
        !item.containedIn (current.getD .null).elements
      if missing.isEmpty then none else some (.add missing)) := by
  cases current <;> rfl

theorem diff_of_merge (member : d ∈ m.definitions) (merges : d.ensure = .merge)
    (wanted : Keyed.get? d.name mapped = some v) (nonempty : v.isEmpty = false)
    (existing : Record) :
    let missing := v.elements.filter fun item =>
      !item.containedIn ((Keyed.get? d.name existing).getD .null).elements
    (m.diff mapped existing).additions d.name = missing ∧
      Keyed.get? d.name (m.diff mapped existing) =
        if missing.isEmpty then none else some (.add missing) := by
  intro missing
  have asked : wanted? mapped d.name = some v := by simp [wanted?, wanted, nonempty]
  have entry : Keyed.get? d.name (m.diff mapped existing) =
      if missing.isEmpty then none else some (.add missing) := by
    rw [get?_diff member, changeOf, merges, asked, change?_merge]
  refine ⟨?_, entry⟩
  rw [Changes.additions, entry]
  cases missing <;> rfl

-- What a difference adds are the elements that are missing, repetitions included. The union appends
-- them without what repeats an earlier one, and so appends just these when none does. Joining what
-- the difference adds comes to the same union.
theorem additions_are_union_iff_apart (member : d ∈ m.definitions) (merges : d.ensure = .merge)
    (wanted : Keyed.get? d.name mapped = some v) (nonempty : v.isEmpty = false)
    (existing : Record) :
    let current := (Keyed.get? d.name existing).getD .null
    let added := (m.diff mapped existing).additions d.name
    Keyed.get? d.name (m.diff mapped existing) = (if added.isEmpty then none else some (.add added)) ∧
      current.union v =
        .array (current.elements ++ (Value.null.union (.array added)).elements) ∧
      (current.union v = .array (current.elements ++ added) ↔
        added.Pairwise fun x y => x.agrees y = false) ∧
      current.union (.array added) = current.union v := by
  intro current added
  obtain ⟨listed, entry⟩ := diff_of_merge member merges wanted nonempty existing
  rw [← listed] at entry
  have appended : current.union v =
      .array (current.elements ++ (Value.null.union (.array added)).elements) := by
    rw [Value.union_eq_append_missing, ← listed]
    rfl
  have joined : current.union (.array added) = current.union v := by
    show current.union (.array ((m.diff mapped existing).additions d.name)) = _
    rw [listed, Value.union_missing]
  refine ⟨entry, appended, ?_, joined⟩
  rw [appended, Value.array.injEq, List.append_right_inj]
  exact Value.missingFrom_nil_eq_self_iff added

theorem additions_are_union_iff_apart_for_groups :
    let one : Value := .number (.int 1 (by decide))
    let float : Value := .number (.float 1.0 (by decide +kernel))
    let m : Mapper := ⟨[⟨"groups", [], .array, .merge, false, [], none, none, none⟩], by decide⟩
    let wanted : Value := .array [one, .string "a", float, .string "b"]
    let mapped : Record := [("groups", wanted)]
    let existing : Record := [("groups", .string "b")]
    (m.diff mapped existing).additions "groups" = [one, .string "a", float] ∧
      (Value.string "b").union wanted = .array [.string "b", one, .string "a"] ∧
      ((Value.string "b").union wanted = .array [.string "b", one, .string "a", float] ↔
        [one, .string "a", float].Pairwise fun x y => x.agrees y = false) := by
  intro one float m wanted mapped existing
  have added : (m.diff mapped existing).additions "groups" = [one, .string "a", float] := by
    decide +kernel
  have law := @additions_are_union_iff_apart m _ mapped wanted List.mem_cons_self rfl rfl
    rfl existing
  rw [added] at law
  exact ⟨added, by decide +kernel, law.2.2.1⟩

-- A tag that is sent twice is added twice, and the union has it once.
theorem repeated_additions_exceed_union :
    let specs : Record := [("tags", .object [("from", .string "tags"), ("type", .string "array"),
      ("ensure", .string "MERGE")])]
    let tags : Value := .array [.string "a", .string "a"]
    let source : Record := [("tags", tags)]
    ∃ m mapped, ofRecord (Pattern.among []) specs = .ok m ∧
      m.map (fun _ _ => .ok .null) source = .ok mapped ∧
      (∃ d ∈ m.definitions, d.name = "tags" ∧ d.ensure = .merge) ∧
      Keyed.get? "tags" mapped = some tags ∧
      (let added := (m.diff mapped []).additions "tags"
      Value.null.union tags ≠ .array (Value.null.elements ++ added)) := by
  intro specs tags source
  let m : Mapper := ⟨[⟨"tags", [.path "tags"], .array, .merge, true, [], none, none, none⟩],
    by decide⟩
  have accepted : ofRecord (Pattern.among []) specs = .ok m := rfl
  have run : m.map (fun _ _ => .ok .null) source = .ok [("tags", tags)] := by
    simp [m, source, Mapper.map, Mapper.mapAll, AttributeDefinition.resolve]
    rfl
  exact ⟨m, _, accepted, run, ⟨_, List.mem_cons_self, rfl, rfl⟩, rfl, by decide +kernel⟩

end Mapper

end RecordSync
