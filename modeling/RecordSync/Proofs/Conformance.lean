import RecordSync.Proofs.Mapping

set_option autoImplicit false

namespace RecordSync

theorem Value.isEmpty_eq_false_iff (v : Value) :
    v.isEmpty = false ↔ v ≠ .null ∧ v ≠ .string "" ∧ v ≠ .array [] := by
  cases v <;> simp [isEmpty]

namespace AttributeDefinition

theorem induction {motive : AttributeDefinition → Prop}
    (step : ∀ d : AttributeDefinition,
      (∀ nested, d.unwind = some nested → motive nested) → motive d)
    (d : AttributeDefinition) : motive d := by
  refine @AttributeDefinition.rec motive
    (fun unwind => ∀ nested, unwind = some nested → motive nested) ?_ ?_ ?_ d
  · intro name sources kind ensure required rewrite require unwind relation nested
    exact step _ nested
  · exact fun _ none => nomatch none
  · rintro nested holds _ ⟨⟩
    exact holds

-- A definition of type null has no constructor, since null is never kept.
inductive Conforms : AttributeDefinition → Value → Prop
  | string {d : AttributeDefinition} {s : String} (kind : d.kind = .string) (nonempty : s ≠ "") :
      Conforms d (.string s)
  | int {d : AttributeDefinition} {n : Int}
      {wide : -0x8000000000000000 ≤ n ∧ n < 0x10000000000000000} (kind : d.kind = .int)
      (range : -0x8000000000000000 ≤ n ∧ n < 0x8000000000000000) :
      Conforms d (.number (.int n wide))
  | float {d : AttributeDefinition} {f : Float} {finite : f.isFinite = true}
      (kind : d.kind = .float) : Conforms d (.number (.float f finite))
  | bool {d : AttributeDefinition} {b : Bool} (kind : d.kind = .bool) : Conforms d (.bool b)
  | binary {d : AttributeDefinition} {s : String} (kind : d.kind = .binary) :
      Conforms d (.object [(Binary.key, .string s)])
  | array {d : AttributeDefinition} {items : List Value} (kind : d.kind = .array)
      (nonempty : items ≠ [])
      (elements : ∀ nested, d.unwind = some nested → ∀ item ∈ items, Conforms nested item) :
      Conforms d (.array items)

variable {evaluate : Evaluator} {record : Record} {d : AttributeDefinition} {v : Value}

theorem conforms_of_holds (holds : d.kind.Holds v) (nonempty : v.isEmpty = false)
    (elements : ∀ items, v = .array items →
      ∀ nested, d.unwind = some nested → ∀ item ∈ items, nested.Conforms item) :
    d.Conforms v := by
  generalize same : d.kind = kind at holds
  rw [Value.isEmpty_eq_false_iff] at nonempty
  cases holds with
  | string s => exact .string same (by simpa using nonempty)
  | int n wide signed => exact .int same ⟨wide.1, signed⟩
  | float f finite => exact .float same
  | bool b => exact .bool same
  | null => simp at nonempty
  | array items => exact .array same (by simpa using nonempty) (elements items rfl)
  | binary s => exact .binary same

theorem conforms_of_resolve {lenient : Bool}
    (run : d.resolve evaluate lenient record = .ok (some v)) : d.Conforms v := by
  -- An element that is unwound is resolved as a record of its own, leniently.
  induction d using induction generalizing lenient record v with
  | step d ih =>
    have holds := holds_resolve run
    obtain ⟨_, nonempty, coerced, _, collected⟩ := resolve_eq_some run
    apply conforms_of_holds holds nonempty
    intro items array nested declared item member
    rcases collected with ⟨same, whole⟩ | ⟨inner, origins, survivors, unwinds, _, mapped, rfl⟩
    · exact absurd (same.symm.trans array) (whole nested items declared)
    · cases declared.symm.trans unwinds
      cases array
      obtain ⟨survivor, there, kept⟩ := List.mem_filterMap.1 member
      obtain ⟨origin, _, resolved⟩ := Except.mem_of_mapM_eq_ok mapped survivor there
      rw [id_eq] at kept
      exact ih nested declared (kept ▸ resolved)

theorem resolve_of_unwound {nested : AttributeDefinition} {items : List Value} {lenient : Bool}
    (survivors : List (Option Value)) (kind : d.kind = .array)
    (present : d.ensure ≠ .absent) (free : d.require = none) (declared : d.unwind = some nested)
    (raw : rewriteValue d.rewrite (firstElement d.kind (rawValue evaluate record d.sources)) =
      .array items) (nonempty : items.isEmpty = false)
    (mapped : items.mapM (fun item => nested.resolve evaluate true [(unwindKey, item)]) =
      .ok survivors) :
    d.resolve evaluate lenient record =
      if (survivors.filterMap id).isEmpty then leaveOut d.name d.required lenient
      else .ok (some (.array (survivors.filterMap id))) := by
  obtain ⟨name, sources, _, ensure, required, rewrite, _, _, relation⟩ := d
  cases kind
  cases free
  cases declared
  unfold resolve
  dsimp only at raw ⊢
  simp only [if_neg present, raw, Value.isEmpty, nonempty, mismatch?, Coercion.coerce, mapped]
  rfl

end AttributeDefinition

namespace Mapper

variable {evaluate : Evaluator} {record mapped : Record} {m : Mapper} {d : AttributeDefinition}

theorem mem_keys_mapAll {ds : List AttributeDefinition}
    (run : mapAll evaluate record ds = .ok mapped) (member : d ∈ ds) (required : d.required = true)
    (present : d.ensure ≠ .absent) : d.name ∈ Keyed.keys mapped := by
  induction ds generalizing mapped with
  | nil => cases member
  | cons e ds ih =>
    obtain ⟨value, rest, resolved, tail, rfl⟩ := mapAll_cons run
    rcases List.mem_cons.1 member with rfl | later
    · cases value with
      | some v => simp
      | none =>
        -- At the top nothing is lenient, so a required attribute has no way out.
        rcases AttributeDefinition.resolve_eq_none resolved with absent | lax
        · exact absurd absent present
        · cases lax required
    · have there := ih tail later
      cases value <;> simp [there]

theorem Image.not_mem_keys_of_absent (image : m.Image mapped) (member : d ∈ m.definitions)
    (absent : d.ensure = .absent) : d.name ∉ Keyed.keys mapped := by
  intro key
  obtain ⟨⟨name, v⟩, entry, rfl⟩ := List.mem_map.1 key
  exact (image.of_get? member (Keyed.get?_of_mem image.distinct entry)).1 absent

-- A mapped record keeps declaration order, holds nothing empty and nothing that is to be removed,
-- and lacks nothing that is required.
theorem mapped_as_declared (run : m.map evaluate record = .ok mapped) :
    (Keyed.keys mapped).Sublist m.names ∧
      (∀ name v, (name, v) ∈ mapped → v ≠ .null ∧ v ≠ .string "" ∧ v ≠ .array []) ∧
      (∀ d ∈ m.definitions, d.ensure = .absent → d.name ∉ Keyed.keys mapped) ∧
      ∀ d ∈ m.definitions, d.required = true → d.ensure ≠ .absent →
        d.name ∈ Keyed.keys mapped := by
  have image := image_map run
  refine ⟨keys_mapAll run, ?_, fun d => image.not_mem_keys_of_absent, fun d => mem_keys_mapAll run⟩
  intro name v member
  obtain ⟨_, _, _, _, nonempty, _⟩ := image.declared name v member
  exact (Value.isEmpty_eq_false_iff v).1 nonempty

theorem mapped_as_declared_for_nameless_group :
    let evaluate : Evaluator := fun _ _ => .ok .null
    let group : AttributeDefinition :=
      ⟨"groups", [.path "root.name"], .string, .latest, true, [], none, none, none⟩
    let groups : AttributeDefinition :=
      ⟨"groups", [.path "groups"], .array, .latest, true, [], none, some group, none⟩
    let note : AttributeDefinition :=
      ⟨"note", [.path "nick"], .string, .absent, true, [], none, none, none⟩
    let nick : AttributeDefinition :=
      ⟨"nick", [.path "nick"], .string, .latest, false, [], none, none, none⟩
    let m : Mapper := ⟨[nick, note, groups], by decide⟩
    let record : Record :=
      [("groups", .array [.object [("name", .string "a")], .object []]), ("nick", .string "")]
    let mapped : Record := [("groups", .array [.string "a"])]
    m.map evaluate record = .ok mapped ∧
      (Keyed.keys mapped).Sublist ["nick", "note", "groups"] ∧
      (∀ name v, (name, v) ∈ mapped → v ≠ .null ∧ v ≠ .string "" ∧ v ≠ .array []) ∧
      "note" ∉ Keyed.keys mapped ∧ "groups" ∈ Keyed.keys mapped := by
  intro evaluate group groups note nick m record mapped
  have named : group.resolve evaluate true
      [(AttributeDefinition.unwindKey, .object [("name", .string "a")])] =
        .ok (some (.string "a")) := by
    simp [group, AttributeDefinition.resolve]
    rfl
  have nameless : group.resolve evaluate true [(AttributeDefinition.unwindKey, .object [])] =
      .ok none := by
    simp [group, AttributeDefinition.resolve]
    rfl
  have unwound : groups.resolve evaluate false record = .ok (some (.array [.string "a"])) := by
    refine AttributeDefinition.resolve_of_unwound [some (.string "a"), none] rfl (by decide)
      rfl rfl rfl rfl ?_
    simp [named, nameless]
    rfl
  have run : m.map evaluate record = .ok mapped := by
    simp only [m, Mapper.map, Mapper.mapAll, unwound]
    simp [nick, note, AttributeDefinition.resolve]
    rfl
  obtain ⟨keys, nonempty, absent, required⟩ := mapped_as_declared run
  exact ⟨run, keys, nonempty, absent note (by simp [m]) rfl,
    required groups (by simp [m]) rfl (by decide)⟩

-- Every value of a mapped record conforms to the definition of its name.
theorem mapped_values_conform (run : m.map evaluate record = .ok mapped) :
    ∀ name v, (name, v) ∈ mapped → ∃ d, m.find? name = some d ∧ d.Conforms v := by
  intro name v member
  obtain ⟨d, there, rfl, resolved⟩ := mem_mapAll run member
  exact ⟨d, find?_of_mem there, AttributeDefinition.conforms_of_resolve resolved⟩

theorem mapped_values_conform_for_rows :
    let evaluate : Evaluator := fun _ _ => .ok .null
    let number : AttributeDefinition := ⟨"rows", [.path "root"], .int, .latest, true,
      [.whole (.string "x") (.ofInt 7)], none, none, none⟩
    let row : AttributeDefinition :=
      ⟨"rows", [.path "root"], .array, .latest, true, [], none, some number, none⟩
    let rows : AttributeDefinition :=
      ⟨"rows", [.path "rows"], .array, .latest, true, [], none, some row, none⟩
    let m : Mapper := ⟨[rows], by decide⟩
    let record : Record :=
      [("rows", .array [.array [.string "-1", .string "x"], .array [.string ""]])]
    let mapped : Value := .array [.array [.ofInt (-1), .ofInt 7]]
    m.map evaluate record = .ok [("rows", mapped)] ∧ rows.Conforms mapped := by
  intro evaluate number row rows m record mapped
  have minus : number.resolve evaluate true [(AttributeDefinition.unwindKey, .string "-1")] =
      .ok (some (.ofInt (-1))) := by
    simp [number, AttributeDefinition.resolve]
    rfl
  have word : number.resolve evaluate true [(AttributeDefinition.unwindKey, .string "x")] =
      .ok (some (.ofInt 7)) := by
    simp [number, AttributeDefinition.resolve]
    rfl
  have blank : number.resolve evaluate true [(AttributeDefinition.unwindKey, .string "")] =
      .ok none := by
    simp [number, AttributeDefinition.resolve]
    rfl
  have full : row.resolve evaluate true
      [(AttributeDefinition.unwindKey, .array [.string "-1", .string "x"])] =
        .ok (some (.array [.ofInt (-1), .ofInt 7])) := by
    refine AttributeDefinition.resolve_of_unwound [some (.ofInt (-1)), some (.ofInt 7)] rfl
      (by decide) rfl rfl rfl rfl ?_
    simp [minus, word]
    rfl
  have hollow : row.resolve evaluate true
      [(AttributeDefinition.unwindKey, .array [.string ""])] = .ok none := by
    refine AttributeDefinition.resolve_of_unwound [none] rfl (by decide) rfl rfl rfl rfl ?_
    simp [blank]
  have unwound : rows.resolve evaluate false record = .ok (some mapped) := by
    refine AttributeDefinition.resolve_of_unwound
      [some (.array [.ofInt (-1), .ofInt 7]), none] rfl (by decide) rfl rfl rfl rfl ?_
    simp [full, hollow]
    rfl
  have run : m.map evaluate record = .ok [("rows", mapped)] := by
    simp only [m, Mapper.map, Mapper.mapAll, unwound]
    rfl
  obtain ⟨d, found, conforms⟩ := mapped_values_conform run "rows" mapped (by simp)
  cases found
  exact ⟨run, conforms⟩

end Mapper

end RecordSync
