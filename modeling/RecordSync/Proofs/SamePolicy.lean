import RecordSync.Proofs.Convergence
import RecordSync.Proofs.Merging

set_option autoImplicit false

namespace RecordSync

namespace Value

theorem missingFrom_eq_filter {base extra : List Value}
    (apart : extra.Pairwise fun x y => x.agrees y = false) :
    missingFrom base extra = extra.filter fun item => !item.containedIn base := by
  induction extra generalizing base with
  | nil => rfl
  | cons x xs ih =>
    obtain ⟨first, later⟩ := List.pairwise_cons.1 apart
    by_cases there : x.containedIn base = true
    · simp [missingFrom, there, ih later]
    · -- What was just appended contains none of the elements that are still to come.
      have same : ∀ item ∈ xs, item.containedIn (base ++ [x]) = item.containedIn base := by
        intro item member
        simp [containedIn, first item member]
      simp only [missingFrom, there, ih later, Bool.false_eq_true, if_false, Bool.not_false,
        List.filter_cons_of_pos]
      rw [List.filter_congr fun item member => by rw [same item member]]

theorem union_eq_append_filter {items : List Value}
    (apart : items.Pairwise fun x y => x.agrees y = false) (base : Value) :
    base.union (.array items) =
      .array (base.elements ++ items.filter fun item => !item.containedIn base.elements) := by
  rw [Value.union, elements, missingFrom_eq_filter apart]

end Value

namespace Endpoint

theorem distinct_applyDelta {delta : Delta} {row : Record} (distinct : Keyed.Distinct row) :
    Keyed.Distinct (applyDelta delta row) := by
  -- Replaced first, then cleared, then joined.
  refine Keyed.distinct_foldl_writes
    (fun entry _ => writes_put (fun current v => (current.getD .null).union v) entry) ?_
  exact (get?_foldl_erase delta.clear distinct.foldl_insert "").1

end Endpoint

namespace Mapper

variable {m : Mapper} {d : AttributeDefinition} {mapped base : Record}

def Joinable (current : Option Value) : Prop :=
  ∀ c, current = some c → c = .null ∨ c.isArray = true

theorem join_eq_union {items : List Value} (apart : items.Pairwise fun x y => x.agrees y = false)
    (current : Option Value) :
    (current.map fun c => c.union (.array items)).getD (.array items) =
      (current.getD .null).union (.array items) := by
  cases current with
  | none =>
    simp [Value.union_eq_append_filter apart, Value.elements, Value.containedIn]
  | some c => rfl

theorem appliedTo_merge {items : List Value} {current : Option Value} (nonempty : items ≠ [])
    (apart : items.Pairwise fun x y => x.agrees y = false) (joinable : Joinable current) :
    Change.appliedTo (change? .merge (some (.array items)) current) current =
      some ((current.getD .null).union (.array items)) := by
  have there : (current.map Value.elements).getD [] = (current.getD .null).elements := by
    cases current <;> rfl
  have whole : (Value.array items).elements = items := rfl
  simp only [change?, there, whole]
  split
  · -- Nothing is missing, so an array was there, and it stays as it is.
    rename_i complete
    rw [List.isEmpty_iff] at complete
    rw [Value.union_eq_append_filter apart, complete, List.append_nil]
    cases current with
    | none => simp [Value.elements, Value.containedIn, nonempty] at complete
    | some c =>
      rcases joinable c rfl with rfl | array
      · simp [Value.elements, Value.containedIn, nonempty] at complete
      · cases c with
        | array xs => rfl
        | _ => cases array
  · exact congrArg Option.some (Value.union_missing (current.getD .null) (.array items))

structure Joins (wanted current : Option Value) : Prop where
  joinable : Joinable current
  apart : ∀ v, wanted = some v →
    ∃ items, v = .array items ∧ items.Pairwise fun x y => x.agrees y = false

theorem appliedTo_eq_mergedValue {ensure : Ensure} {wanted current : Option Value}
    (other : ensure ≠ .latest) (joins : ensure = .merge → Joins wanted current) :
    Change.appliedTo (change? ensure (wanted.filter fun v => !v.isEmpty) current) current =
      mergedValue ensure wanted current := by
  cases ensure with
  | latest => exact absurd rfl other
  | absent => cases current <;> rfl
  | present =>
    unfold mergedValue
    cases wanted.filter (fun v => !v.isEmpty) <;> cases current <;> rfl
  | merge =>
    unfold mergedValue
    cases incoming : wanted.filter (fun v => !v.isEmpty) with
    | none => rfl
    | some v =>
      obtain ⟨held, nonempty⟩ := Option.filter_eq_some_iff.1 incoming
      obtain ⟨items, rfl, apart⟩ := (joins rfl).apart v held
      have some : items ≠ [] := by simpa [Value.isEmpty] using nonempty
      rw [appliedTo_merge some apart (joins rfl).joinable]
      exact congrArg Option.some (join_eq_union apart current).symm

theorem rel_self {o : Option Value} (keyed : ∀ v, o = some v → v.WellKeyed) :
    Option.Rel (fun v w => v.agrees w = true) o o := by
  cases o with
  | none => exact .none
  | some v => exact .some (Value.agrees_self (keyed v rfl))

theorem eq_none_iff_of_rel {r : Value → Value → Prop} {a b : Option Value}
    (rel : Option.Rel r a b) : a = none ↔ b = none := by
  cases rel <;> simp

-- The latest value is not written over one that it agrees with, and only there the two ways differ.
theorem rel_latest {wanted : Option Value} (keyed : ∀ v, wanted = some v → v.WellKeyed)
    (current : Option Value) :
    Option.Rel (fun v w => v.agrees w = true) wanted
      (Change.appliedTo (change? .latest wanted current) current) := by
  cases wanted with
  | none => cases current <;> exact .none
  | some v =>
    have self : v.agrees v = true := Value.agrees_self (keyed v rfl)
    cases current with
    | none => exact .some self
    | some c =>
      by_cases agree : v.agrees c = true
      · simp [change?, Change.appliedTo, agree]
      · simpa [change?, Change.appliedTo, Change.applied, agree] using Option.Rel.some self

theorem rel_mergedValue {ensure : Ensure} {wanted current : Option Value}
    (wantedKeyed : ∀ v, wanted = some v → v.WellKeyed)
    (currentKeyed : ∀ v, current = some v → v.WellKeyed)
    (joins : ensure = .merge → Joins wanted current) :
    Option.Rel (fun v w => v.agrees w = true) (mergedValue ensure wanted current)
      (Change.appliedTo (change? ensure (wanted.filter fun v => !v.isEmpty) current) current) := by
  by_cases latest : ensure = .latest
  · subst latest
    exact rel_latest (fun v held => wantedKeyed v (Option.filter_eq_some_iff.1 held).1) current
  · rw [appliedTo_eq_mergedValue latest joins]
    exact rel_self (wellKeyed_mergedValue wantedKeyed currentKeyed)

section Records

variable (plain : m.Plain) (sound : m.Sound) (mappedKeyed : Record.WellKeyed mapped)
  (baseKeyed : Record.WellKeyed base)
  (joins : ∀ d ∈ m.definitions, d.ensure = .merge →
    Joins (Keyed.get? d.name mapped) (Keyed.get? d.name base))

include plain sound mappedKeyed baseKeyed joins

theorem rel_merge_converged (name : String) :
    Option.Rel (fun v w => v.agrees w = true) (Keyed.get? name (m.merge mapped base))
      (Keyed.get? name (m.converged mapped base)) := by
  by_cases declared : name ∈ m.names
  · obtain ⟨d, member, rfl⟩ := List.mem_map.1 declared
    rw [get?_merge plain sound baseKeyed.distinct member, get?_converged baseKeyed.distinct member]
    exact rel_mergedValue (fun v => mappedKeyed.get?) (fun v => baseKeyed.get?) (joins d member)
  · have left : Keyed.get? name (m.merge mapped base) = Keyed.get? name base :=
      Keyed.get?_foldl_writes_of_not_mem
        (fun d member => writes_mergeOne (plain.path sound member)) baseKeyed.distinct declared
    rw [left, get?_converged_of_not_mem baseKeyed.distinct declared]
    exact rel_self fun v => baseKeyed.get?

theorem perm_keys_merge_converged :
    (Keyed.keys (m.merge mapped base)).Perm (Keyed.keys (m.converged mapped base)) := by
  have merged : Keyed.Distinct (m.merge mapped base) :=
    distinct_merge plain sound baseKeyed.distinct
  have converged : Keyed.Distinct (m.converged mapped base) :=
    Endpoint.distinct_applyDelta baseKeyed.distinct
  refine (List.perm_ext_iff_of_nodup merged converged).2 fun name => ?_
  rw [← not_iff_not, ← Keyed.get?_eq_none_iff, ← Keyed.get?_eq_none_iff]
  exact eq_none_iff_of_rel (rel_merge_converged plain sound mappedKeyed baseKeyed joins name)

end Records

-- Merging a mapped record onto a base, and applying the difference of the two to it, leave the same
-- keys with values that agree. Where elements are joined the base has an array, null or nothing,
-- and no two of the mapped elements agree.
theorem merge_agrees_with_applied_difference {compile : Pattern.Compiler} {specs : Record}
    (accepted : ofRecord compile specs = .ok m)
    (plain : m.Plain) (specsKeyed : Record.WellKeyed specs) {evaluate : Evaluator}
    (evaluateKeyed : evaluate.WellKeyed) {source : Record} (sourceKeyed : Record.WellKeyed source)
    (run : m.map evaluate source = .ok mapped) (baseKeyed : Record.WellKeyed base)
    (joinable : ∀ d ∈ m.definitions, d.ensure = .merge → Joinable (Keyed.get? d.name base))
    (apart : ∀ d ∈ m.definitions, d.ensure = .merge →
      ∀ items, Keyed.get? d.name mapped = some (.array items) →
        items.Pairwise fun x y => x.agrees y = false) :
    (Keyed.keys (m.merge mapped base)).Perm (Keyed.keys
        (Endpoint.applyDelta (Delta.ofChanges (m.diff mapped base)) base)) ∧
      ∀ name v w, Keyed.get? name (m.merge mapped base) = some v →
        Keyed.get? name (Endpoint.applyDelta (Delta.ofChanges (m.diff mapped base)) base) = some w →
        v.agrees w = true := by
  have sound := sound_ofRecord accepted
  have image := image_map run
  have mappedKeyed := wellKeyed_map evaluateKeyed (wellKeyed_ofRecord specsKeyed accepted)
    sourceKeyed run
  have joins : ∀ d ∈ m.definitions, d.ensure = .merge →
      Joins (Keyed.get? d.name mapped) (Keyed.get? d.name base) := by
    refine fun d member merges => ⟨joinable d member merges, fun v found => ?_⟩
    cases v with
    | array items => exact ⟨items, rfl, apart d member merges items found⟩
    | _ => cases image.isArray_of_merge sound member merges found
  refine ⟨perm_keys_merge_converged plain sound mappedKeyed baseKeyed joins, ?_⟩
  intro name v w merged applied
  have rel := rel_merge_converged plain sound mappedKeyed baseKeyed joins name
  unfold converged at rel
  rw [merged, applied] at rel
  cases rel with
  | some agree => exact agree

theorem merge_agrees_with_applied_difference_for_reordered_roles :
    let specs : Record := [("login", .object [("from", .string "uid"), ("ensure", .string "EXISTS")]),
      ("groups", .object [("from", .string "groups"), ("type", .string "array"),
        ("ensure", .string "MERGE")]),
      ("note", .object [("ensure", .string "ABSENT")]),
      ("roles", .object [("from", .string "roles"), ("type", .string "array")])]
    let source : Record := [("uid", .string "ann"), ("groups", .array [.string "a", .string "b"]),
      ("roles", .array [.string "x", .string "y"])]
    let base : Record := [("note", .null), ("roles", .array [.string "y", .string "x"]),
      ("login", .string "bob"), ("groups", .null), ("mail", .string "a@x")]
    ∃ m mapped, ofRecord (Pattern.among []) specs = .ok m ∧
      m.map (fun _ _ => .ok .null) source = .ok mapped ∧
      (let merged := m.merge mapped base
      let applied := Endpoint.applyDelta (Delta.ofChanges (m.diff mapped base)) base
      Keyed.get? "roles" merged = some (.array [.string "x", .string "y"]) ∧
        Keyed.get? "roles" applied = some (.array [.string "y", .string "x"]) ∧
        (Keyed.keys merged).Perm (Keyed.keys applied) ∧
        ∀ name v w, Keyed.get? name merged = some v → Keyed.get? name applied = some w →
          v.agrees w = true) := by
  intro specs source base
  let m : Mapper := ⟨[⟨"login", [.path "uid"], .string, .present, true, [], none, none, none⟩,
    ⟨"groups", [.path "groups"], .array, .merge, true, [], none, none, none⟩,
    ⟨"note", [], .string, .absent, true, [], none, none, none⟩,
    ⟨"roles", [.path "roles"], .array, .latest, true, [], none, none, none⟩], by decide⟩
  let mapped : Record := [("login", .string "ann"), ("groups", .array [.string "a", .string "b"]),
    ("roles", .array [.string "x", .string "y"])]
  have accepted : ofRecord (Pattern.among []) specs = .ok m := rfl
  have run : m.map (fun _ _ => .ok .null) source = .ok mapped := by
    simp [m, source, Mapper.map, Mapper.mapAll, AttributeDefinition.resolve]
    rfl
  have plain : m.Plain := by
    unfold Mapper.Plain
    decide
  have specsKeyed : Record.WellKeyed specs := by
    simp [specs, Record.WellKeyed, Value.WellKeyed, Value.WellKeyedFields, Keyed.distinct_cons]
  have evaluateKeyed : Evaluator.WellKeyed fun _ _ => .ok .null := by
    rintro code context v _ ⟨⟩
    exact Value.wellKeyed_null
  have sourceKeyed : Record.WellKeyed source := by
    simp [source, Record.wellKeyed_iff, Keyed.distinct_cons, Value.wellKeyed_array_iff]
  have baseKeyed : Record.WellKeyed base := by
    simp [base, Record.wellKeyed_iff, Keyed.distinct_cons, Value.wellKeyed_array_iff]
  have joinable : ∀ d ∈ m.definitions, d.ensure = .merge → Joinable (Keyed.get? d.name base) := by
    simp [m, base, Joinable]
  have apart : ∀ d ∈ m.definitions, d.ensure = .merge →
      ∀ items, Keyed.get? d.name mapped = some (.array items) →
        items.Pairwise fun x y => x.agrees y = false := by
    have groups : [Value.string "a", .string "b"].Pairwise fun x y => x.agrees y = false := by
      decide
    simpa [m, mapped] using groups
  exact ⟨m, mapped, accepted, run, by decide, by decide,
    merge_agrees_with_applied_difference accepted plain specsKeyed evaluateKeyed sourceKeyed run
      baseKeyed joinable apart⟩

end Mapper

end RecordSync
