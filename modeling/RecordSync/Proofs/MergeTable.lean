import RecordSync.Proofs.Merging

set_option autoImplicit false

namespace RecordSync.Mapper

variable {m : Mapper} {ds : List AttributeDefinition} {mapped base : Record}

-- The value of a name after a merge, by what the base has under it and by what comes in.
def tableEntry : Ensure → Option Value → Option Value → Option Value
  | .present, some kept, _ => some kept
  | .present, none, incoming => incoming
  | .latest, _, incoming => incoming
  | .absent, _, _ => none
  | .merge, some kept, some incoming => some (kept.union incoming)
  | .merge, some kept, none => some kept
  | .merge, none, incoming => incoming

-- A record that holds what the table says of a base, in the order of the base.
structure FollowsTable (ds : List AttributeDefinition) (mapped base merged : Record) : Prop where
  declared : ∀ d ∈ ds, Keyed.get? d.name merged = tableEntry d.ensure (Keyed.get? d.name base)
    ((Keyed.get? d.name mapped).filter fun v => !v.isEmpty)
  undeclared : ∀ name ∉ ds.map AttributeDefinition.name,
    Keyed.get? name merged = Keyed.get? name base
  order : Keyed.KeepsOrder (Keyed.keys base) (ds.map AttributeDefinition.name) (Keyed.keys merged)

theorem mergedValue_eq_tableEntry (ensure : Ensure) (wanted current : Option Value) :
    mergedValue ensure wanted current =
      tableEntry ensure current (wanted.filter fun v => !v.isEmpty) := by
  unfold mergedValue tableEntry
  cases ensure with
  | absent | latest => rfl
  | present => cases current <;> rfl
  | merge => cases wanted.filter (fun v => !v.isEmpty) <;> cases current <;> rfl

theorem ofDefinitions_eq_ok (accepted : ofDefinitions ds = .ok m) : m.definitions = ds := by
  unfold ofDefinitions at accepted
  split at accepted
  · cases accepted
    rfl
  · cases accepted

theorem foldl_mergeOne_eq_assign (plain : ∀ d ∈ ds, Path.Plain d.name) :
    ds.foldl (mergeOne mapped) base = ds.foldl (fun acc d => Keyed.assign d.name
      (mergedValue d.ensure (Keyed.get? d.name mapped) (Keyed.get? d.name acc)) acc) base :=
  List.foldl_ext _ _ base fun _ d member => mergeOne_eq_assign (plain d member)

-- Merging onto a record gives each declared name the value of the table, keeps all other entries,
-- and keeps the order of the record with what is new behind it.
theorem merge_follows_table (accepted : ofDefinitions ds = .ok m)
    (plain : ∀ d ∈ ds, Path.Plain d.name) (mapped : Record) (distinct : Keyed.Distinct base) :
    FollowsTable ds mapped base (m.merge mapped base) := by
  obtain rfl := ofDefinitions_eq_ok accepted
  have writes (d : AttributeDefinition) (member : d ∈ m.definitions) :
      Keyed.Writes (mergeOne mapped · d) d.name
        (mergedValue d.ensure (Keyed.get? d.name mapped)) := writes_mergeOne (plain d member)
  refine ⟨fun d member => ?_, fun name other => ?_, ?_⟩
  · rw [← mergedValue_eq_tableEntry]
    exact Keyed.get?_foldl_writes writes distinct m.distinct member
  · exact Keyed.get?_foldl_writes_of_not_mem writes distinct other
  · rw [merge, foldl_mergeOne_eq_assign plain]
    exact Keyed.keepsOrder_foldl_assign distinct m.distinct

theorem merge_follows_table_for_new_mail :
    let ds : List AttributeDefinition := [
      ⟨"login", [.path "login"], .string, .present, true, [], none, none, none⟩,
      ⟨"mail", [.path "mail"], .string, .latest, true, [], none, none, none⟩,
      ⟨"phone", [], .string, .absent, true, [], none, none, none⟩,
      ⟨"groups", [.path "groups"], .array, .merge, true, [], none, none, none⟩]
    let mapped : Record := [("login", .string "bob"), ("mail", .string "new@x"),
      ("groups", .array [.string "admins", .string "staff"])]
    let base : Record := [("phone", .string "555"), ("login", .string "ada"),
      ("note", .string "kept"), ("groups", .array [.string "staff"])]
    ∃ m, ofDefinitions ds = .ok m ∧ m.merge mapped base = [("login", .string "ada"),
        ("note", .string "kept"), ("groups", .array [.string "staff", .string "admins"]),
        ("mail", .string "new@x")] ∧
      FollowsTable ds mapped base (m.merge mapped base) := by
  intro ds mapped base
  let m : Mapper := ⟨ds, by decide⟩
  have accepted : ofDefinitions ds = .ok m := rfl
  have plain : ∀ d ∈ ds, Path.Plain d.name := by
    simp only [ds, List.forall_mem_cons]
    exact ⟨⟨by decide, by decide⟩, ⟨by decide, by decide⟩, ⟨by decide, by decide⟩,
      ⟨by decide, by decide⟩, nofun⟩
  have distinct : Keyed.Distinct base := by simp [base, Keyed.distinct_cons]
  exact ⟨m, accepted, by decide +kernel, merge_follows_table accepted plain mapped distinct⟩

end RecordSync.Mapper
