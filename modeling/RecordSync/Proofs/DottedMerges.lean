import RecordSync.Proofs.LonePaths
import RecordSync.Proofs.MergeSteps

set_option autoImplicit false

namespace RecordSync

namespace Path

-- The keys with which a path can begin: its segments up to each of them, joined.
def heads (path : String) : List String :=
  match segments? path with
  | some parts => (List.range parts.length).map fun n => ".".intercalate (parts.take (n + 1))
  | none => []

theorem mem_heads {path : String} {parts : List String} (split : segments? path = some parts)
    {n : Nat} (taken : 0 < n) (within : n ≤ parts.length) :
    ".".intercalate (parts.take n) ∈ heads path := by
  obtain ⟨n, rfl⟩ := Nat.exists_eq_add_one.2 taken
  rw [heads, split]
  exact List.mem_map.2 ⟨n, List.mem_range.2 within, rfl⟩

end Path

namespace Mapper

variable {m : Mapper} {d : AttributeDefinition} {ds : List AttributeDefinition}
  {mapped base : Record} {p : String × Value → Bool}

-- The keys of a record with which the path of some attribute can begin.
def reached (m : Mapper) : List String :=
  m.definitions.flatMap fun d => Path.heads d.name

theorem mergeOne_filter (off : ∀ key ∈ Path.heads d.name, ∀ v, p (key, v) = false) :
    (mergeOne mapped base d).filter p = base.filter p := by
  rcases mergeOne_eq_or_edits mapped base d with same | ⟨parts, put, split, edits, _⟩
  · rw [same]
  · exact edits.filter_eq fun n v taken within => off _ (Path.mem_heads split taken within) v

theorem foldl_mergeOne_filter
    (off : ∀ d ∈ ds, ∀ key ∈ Path.heads d.name, ∀ v, p (key, v) = false) :
    (ds.foldl (mergeOne mapped) base).filter p = base.filter p := by
  induction ds generalizing base with
  | nil => rfl
  | cons d ds ih =>
    obtain ⟨first, later⟩ := List.forall_mem_cons.1 off
    rw [List.foldl_cons, ih later, mergeOne_filter first]

-- The entries with which no attribute's path can begin are after a merge what they were, in the
-- same order.
theorem merge_keeps_unreached (m : Mapper) (mapped base : Record) :
    (m.merge mapped base).filter (fun entry => entry.1 ∉ m.reached) =
        base.filter (fun entry => entry.1 ∉ m.reached) ∧
      ∀ key ∉ m.reached, Keyed.get? key (m.merge mapped base) = Keyed.get? key base := by
  have head (d : AttributeDefinition) (member : d ∈ m.definitions) (key : String)
      (begins : key ∈ Path.heads d.name) : key ∈ m.reached := List.mem_flatMap.2 ⟨d, member, begins⟩
  have kept : (m.merge mapped base).filter (fun entry => entry.1 ∉ m.reached) =
      base.filter fun entry => entry.1 ∉ m.reached :=
    foldl_mergeOne_filter fun d member key begins v => by simp [head d member key begins]
  refine ⟨kept, fun key other => ?_⟩
  have among (xs : Record) :
      Keyed.get? key (xs.filter fun entry => entry.1 ∉ m.reached) = Keyed.get? key xs :=
    Keyed.get?_filter (fun v => by simpa using other) xs
  rw [← among, kept, among]

theorem merge_keeps_unreached_for_dotted_sibling :
    let specs : Record := [("name.given", .object []),
      ("tags.0", .object [("ensure", .string "ABSENT")])]
    let mapped : Record := [("name.given", .string "Augusta")]
    let base : Record := [("name.family", .string "Lovelace"), ("tags", .array [.string "a"]),
      ("note", .string "kept")]
    ∃ m, ofRecord (Pattern.among []) specs = .ok m ∧
      m.reached = ["name", "name.given", "tags", "tags.0"] ∧
      m.merge mapped base = [("name.family", .string "Lovelace"), ("tags", .array []),
        ("note", .string "kept"), ("name", .object [("given", .string "Augusta")])] ∧
      "name.family" ∉ m.reached ∧
      Keyed.get? "name.family" (m.merge mapped base) = Keyed.get? "name.family" base := by
  intro specs mapped base
  let m : Mapper := ⟨[⟨"name.given", [], .string, .latest, true, [], none, none, none⟩,
    ⟨"tags.0", [], .string, .absent, true, [], none, none, none⟩], by decide⟩
  have accepted : ofRecord (Pattern.among []) specs = .ok m := rfl
  have reached : m.reached = ["name", "name.given", "tags", "tags.0"] := by decide +kernel
  have other : "name.family" ∉ m.reached := by simp [reached]
  exact ⟨m, accepted, reached, by decide +kernel, other,
    (merge_keeps_unreached m mapped base).2 "name.family" other⟩

theorem getIn_mergeOne {path : String} (apart : Path.Apart path d.name) :
    Path.getIn (mergeOne mapped base d) path = Path.getIn base path := by
  rcases mergeOne_eq_or_edits mapped base d with same | ⟨parts, put, split, edits, _⟩
  · rw [same]
  · exact edits.getIn_eq split apart

theorem getIn_foldl_mergeOne {path : String} (apart : ∀ d ∈ ds, Path.Apart path d.name) :
    Path.getIn (ds.foldl (mergeOne mapped) base) path = Path.getIn base path := by
  induction ds generalizing base with
  | nil => rfl
  | cons d ds ih =>
    obtain ⟨first, later⟩ := List.forall_mem_cons.1 apart
    rw [List.foldl_cons, ih later, getIn_mergeOne first]

-- What is declared absent is gone after a merge just where its path was lone in the record that its
-- turn came to, if no later attribute changes what its path leads to.
theorem absent_gone_iff_lone {earlier later : List AttributeDefinition}
    (declared : m.definitions = earlier ++ d :: later) (absent : d.ensure = .absent)
    (apart : ∀ e ∈ later, Path.Apart d.name e.name) (mappedKeyed : Record.WellKeyed mapped)
    (baseKeyed : Record.WellKeyed base) :
    Path.getIn (m.merge mapped base) d.name = none ↔
      ∀ parts, Path.segments? d.name = some parts →
        Path.Lone (.object (earlier.foldl (mergeOne mapped) base)) parts := by
  have turn := wellKeyed_foldl mappedKeyed baseKeyed earlier
  have removed (fields : Record) : mergeOne mapped fields d = (Path.removeIn fields d.name).1 := by
    rw [mergeOne, absent]
  rw [merge, declared, List.foldl_append, List.foldl_cons, getIn_foldl_mergeOne apart, removed]
  exact Path.getIn_removeIn_eq_none_iff turn d.name

theorem absent_gone_iff_lone_for_nickname :
    let specs : Record := [("name.given", .object []),
      ("name.nick", .object [("ensure", .string "ABSENT")]), ("badge.id", .object [])]
    let mapped : Record := [("name.given", .string "Augusta"), ("badge.id", .string "b-2")]
    let base : Record := [("name", .object [("given", .string "Ada"), ("family", .string "Lovelace"),
      ("nick", .string "al")]), ("badge", .string "b-1")]
    let turn : Record := [("name", .object [("given", .string "Augusta"),
      ("family", .string "Lovelace"), ("nick", .string "al")]), ("badge", .string "b-1")]
    ∃ m, ofRecord (Pattern.among []) specs = .ok m ∧ m.merge mapped base = [("name", .object
        [("given", .string "Augusta"), ("family", .string "Lovelace")]), ("badge", .string "b-1")] ∧
      Path.getIn (m.merge mapped base) "name.nick" = none ∧
      (Path.getIn (m.merge mapped base) "name.nick" = none ↔ ∀ parts,
        Path.segments? "name.nick" = some parts → Path.Lone (.object turn) parts) := by
  intro specs mapped base turn
  let earlier : AttributeDefinition :=
    ⟨"name.given", [], .string, .latest, true, [], none, none, none⟩
  let d : AttributeDefinition := ⟨"name.nick", [], .string, .absent, true, [], none, none, none⟩
  let later : AttributeDefinition := ⟨"badge.id", [], .string, .latest, true, [], none, none, none⟩
  let m : Mapper := ⟨[earlier, d, later], by decide⟩
  have accepted : ofRecord (Pattern.among []) specs = .ok m := rfl
  have apart : ∀ e ∈ [later], Path.Apart d.name e.name := by
    refine List.forall_mem_singleton.2 fun parts others split split' => ?_
    have nick : Path.segments? "name.nick" = some ["name", "nick"] := by decide +kernel
    have badge : Path.segments? "badge.id" = some ["badge", "id"] := by decide +kernel
    obtain rfl := Option.some.inj (nick.symm.trans split)
    obtain rfl := Option.some.inj (badge.symm.trans split')
    have key : Numeral.index? "name" = none := by decide +kernel
    exact .here (by decide) fun i j position => absurd position (by simp [key])
  have mappedKeyed : Record.WellKeyed mapped := by
    simp [mapped, Record.wellKeyed_iff, Keyed.distinct_cons]
  have baseKeyed : Record.WellKeyed base := by
    simp [base, Record.WellKeyed, Value.WellKeyed, Value.WellKeyedFields, Keyed.distinct_cons]
  have reached : [earlier].foldl (mergeOne mapped) base = turn := by decide +kernel
  have gone := @absent_gone_iff_lone m d mapped base [earlier] [later] rfl rfl apart mappedKeyed
    baseKeyed
  rw [reached] at gone
  exact ⟨m, accepted, by decide +kernel, by decide +kernel, gone⟩

-- A value that a mapper declares absent, and that is read after its merge all the same.
def Outlasts (specs source base : Record) (name : String) (v : Value) : Prop :=
  ∃ m mapped, ofRecord (Pattern.among []) specs = .ok m ∧
    m.map (fun _ _ => .ok .null) source = .ok mapped ∧
    (∃ d ∈ m.definitions, d.name = name ∧ d.ensure = .absent) ∧
    Path.getIn (m.merge mapped base) name = some v

-- One value is taken out when its turn comes. Another one can stand behind it, under other keys or
-- as the next element; and a later attribute can write there or move an element up.
theorem absent_values_outlast :
    let gone : Value := .object [("ensure", .string "ABSENT")]
    let source : Record := [("x", .string "al")]
    Outlasts [("name.nick", gone)] source
        [("name.nick", .string "al"), ("name", .object [("nick", .string "countess")])]
        "name.nick" (.string "countess") ∧
      Outlasts [("tags.0", gone)] source [("tags", .array [.string "a", .string "b"])]
        "tags.0" (.string "b") ∧
      Outlasts [("name", gone), ("name.nick", .object [("from", .string "x")])] source []
        "name" (.object [("nick", .string "al")]) ∧
      Outlasts [("tags.0", gone),
          ("tags", .object [("from", .string "x"), ("type", .string "array")])] source []
        "tags.0" (.string "al") ∧
      Outlasts [("tags.1.nick", gone), ("tags.0", gone)] source
        [("tags", .array [.null, .null, .object [("nick", .string "al")]])]
        "tags.1.nick" (.string "al") := by
  intro gone source
  let absent (name : String) : AttributeDefinition :=
    ⟨name, [], .string, .absent, true, [], none, none, none⟩
  let latest (name : String) (kind : Kind) : AttributeDefinition :=
    ⟨name, [.path "x"], kind, .latest, true, [], none, none, none⟩
  refine ⟨?_, ?_, ?_, ?_, ?_⟩
  · refine ⟨⟨[absent "name.nick"], by decide⟩, [], rfl, ?_, ⟨_, .head _, rfl, rfl⟩, by decide +kernel⟩
    simp [absent, Mapper.map, Mapper.mapAll, AttributeDefinition.resolve]
  · refine ⟨⟨[absent "tags.0"], by decide⟩, [], rfl, ?_, ⟨_, .head _, rfl, rfl⟩, by decide +kernel⟩
    simp [absent, Mapper.map, Mapper.mapAll, AttributeDefinition.resolve]
  · refine ⟨⟨[absent "name", latest "name.nick" .string], by decide⟩, [("name.nick", .string "al")],
      rfl, ?_, ⟨_, .head _, rfl, rfl⟩, by decide +kernel⟩
    simp [absent, latest, source, Mapper.map, Mapper.mapAll, AttributeDefinition.resolve]
    rfl
  · refine ⟨⟨[absent "tags.0", latest "tags" .array], by decide⟩, [("tags", .array [.string "al"])],
      rfl, ?_, ⟨_, .head _, rfl, rfl⟩, by decide +kernel⟩
    simp [absent, latest, source, Mapper.map, Mapper.mapAll, AttributeDefinition.resolve]
    rfl
  · refine ⟨⟨[absent "tags.1.nick", absent "tags.0"], by decide⟩, [], rfl, ?_,
      ⟨_, .head _, rfl, rfl⟩, by decide +kernel⟩
    simp [absent, Mapper.map, Mapper.mapAll, AttributeDefinition.resolve]

end Mapper

end RecordSync
