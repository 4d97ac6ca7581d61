import RecordSync.Proofs.Acceptance
import RecordSync.Proofs.LoneAttributes
import RecordSync.Proofs.PlainNames

set_option autoImplicit false

namespace RecordSync

namespace Except

variable {ε α β : Type}

theorem exists_error_iff {x : Except ε α} : (∃ e, x = .error e) ↔ ¬∃ a, x = .ok a := by
  cases x <;> simp

theorem map_eq_ok_iff {x : Except ε α} {f : α → β} {b : β} :
    x.map f = .ok b ↔ ∃ a, x = .ok a ∧ f a = b := by
  refine ⟨map_eq_ok, ?_⟩
  rintro ⟨a, rfl, rfl⟩
  rfl

theorem mapM_append_of_ok {f : α → Except ε β} {xs ys : List α} {us vs : List β}
    (front : xs.mapM f = .ok us) (back : ys.mapM f = .ok vs) :
    (xs ++ ys).mapM f = .ok (us ++ vs) := by
  rw [List.mapM_append, front, back]
  rfl

end Except

namespace AttributeDefinition

variable {evaluate : Evaluator} {record : Record} {d : AttributeDefinition} {lenient : Bool}
  {path : String} {item : Value} {items : List Value} {survivor : Option Value}

-- An array is wanted, read from one path, and may be left out.
structure WantsArray (d : AttributeDefinition) (path : String) : Prop where
  kind : d.kind = .array
  present : d.ensure ≠ .absent
  optional : d.required = false
  source : d.sources = [.path path]

def unwoundElement (evaluate : Evaluator) (d : AttributeDefinition) (item : Value) :
    Except MappingError (Option Value) :=
  match d.unwind with
  | some nested => nested.resolve evaluate true [(unwindKey, item)]
  | none => .ok (some item)

-- What one element of an array comes to by itself, or none if it is dropped.
def element (evaluate : Evaluator) (d : AttributeDefinition) (item : Value) :
    Except MappingError (Option Value) :=
  let item := rewriteOne d.rewrite item
  match mismatch? d.require (.array [item]) with
  | some fault => .error (.resolution d.name fault)
  | none => d.unwoundElement evaluate item

def emitted? : List Value → Option Value
  | [] => none
  | items => some (.array items)

theorem rewriteValue_array (rules : List RewriteRule) (items : List Value) :
    rewriteValue rules (.array items) = .array (items.map (rewriteOne rules)) := by
  cases rules with
  | cons rule rules => rfl
  | nil =>
    have same : rewriteOne [] = id := rfl
    rw [same, List.map_id]
    rfl

theorem WantsArray.tried (wants : d.WantsArray path)
    (found : Path.getIn record path = some (.array items)) :
    d.tried evaluate record = .array (items.map (rewriteOne d.rewrite)) := by
  rw [AttributeDefinition.tried, wants.source, rawValue_of_path found, wants.kind,
    ← rewriteValue_array]
  rfl

theorem mismatch?_array (require : Option Pattern) (items : List Value) :
    mismatch? require (.array items) = none ↔
      ∀ item ∈ items, mismatch? require (.array [item]) = none := by
  cases require with
  | none => simp [mismatch?]
  | some pattern => simp [mismatch?_eq_none_iff, Value.elements]

theorem unwound_array : d.unwound evaluate (.array items) =
    (items.mapM (d.unwoundElement evaluate)).map fun survivors =>
      .array (survivors.filterMap id) := by
  unfold unwound unwoundElement
  cases d.unwind with
  | some nested => rfl
  | none =>
    have kept : (items.mapM fun item => .ok (some item) : Except MappingError _) =
        .ok (items.map some) := List.mapM_pure
    dsimp only
    rw [kept]
    simp [Except.map]

theorem element_eq_ok_iff : d.element evaluate item = .ok survivor ↔
    mismatch? d.require (.array [rewriteOne d.rewrite item]) = none ∧
      d.unwoundElement evaluate (rewriteOne d.rewrite item) = .ok survivor := by
  unfold element
  dsimp only
  cases mismatch? d.require (.array [rewriteOne d.rewrite item]) <;> simp

theorem WantsArray.resolve (wants : d.WantsArray path)
    (found : Path.getIn record path = some (.array items)) :
    d.resolve evaluate lenient record =
      match mismatch? d.require (.array (items.map (rewriteOne d.rewrite))) with
      | some fault => .error (.resolution d.name fault)
      | none => ((items.map (rewriteOne d.rewrite)).mapM (d.unwoundElement evaluate)).map
          fun survivors => emitted? (survivors.filterMap id) := by
  have kept (items : List Value) : (if (Value.array items).isEmpty then
      leaveOut d.name false lenient else .ok (some (.array items))) = .ok (emitted? items) := by
    cases items <;> rfl
  rw [resolve_eq wants.present, wants.tried found, wants.kind, wants.optional]
  generalize items.map (rewriteOne d.rewrite) = rewritten
  cases rewritten with
  | nil =>
    rw [(mismatch?_array d.require []).2 nofun]
    rfl
  | cons first rest =>
    cases mismatch? d.require (.array (first :: rest)) with
    | some fault => rfl
    | none =>
      show (d.unwound evaluate (.array (first :: rest))).bind _ = _
      rw [unwound_array]
      dsimp only
      cases (first :: rest).mapM (d.unwoundElement evaluate) with
      | error e => rfl
      | ok survivors => exact kept _

theorem WantsArray.resolve_eq_ok_iff {v : Option Value} (wants : d.WantsArray path)
    (found : Path.getIn record path = some (.array items)) :
    d.resolve evaluate lenient record = .ok v ↔
      ∃ survivors, items.mapM (d.element evaluate) = .ok survivors ∧
        emitted? (survivors.filterMap id) = v := by
  have each (survivors : List (Option Value)) : items.mapM (d.element evaluate) = .ok survivors ↔
      mismatch? d.require (.array (items.map (rewriteOne d.rewrite))) = none ∧
        (items.map (rewriteOne d.rewrite)).mapM (d.unwoundElement evaluate) = .ok survivors := by
    simp only [Except.mapM_eq_ok_iff, element_eq_ok_iff, List.forall₂_and_left,
      List.forall₂_map_left_iff, mismatch?_array _ (items.map _), List.forall_mem_map]
  rw [wants.resolve found]
  cases passed : mismatch? d.require (.array (items.map (rewriteOne d.rewrite))) with
  | some fault => simp [each, passed]
  | none => simp [each, passed, Except.map_eq_ok_iff]

end AttributeDefinition

namespace Mapper

variable {d : AttributeDefinition} {evaluate : Evaluator} {record left right both : Record}
  {path : String} {xs ys : List Value}

def emitting (d : AttributeDefinition) (items : List Value) : Record :=
  ((AttributeDefinition.emitted? items).map (d.name, ·)).toList

theorem emitting_injective (d : AttributeDefinition) : Function.Injective (emitting d) := by
  intro us vs same
  cases us <;> cases vs <;> simp_all [emitting, AttributeDefinition.emitted?]

theorem map_array_eq_ok_iff {mapped : Record} (wants : d.WantsArray path)
    (found : Path.getIn record path = some (.array xs)) :
    (alone d).map evaluate record = .ok mapped ↔
      ∃ survivors, xs.mapM (d.element evaluate) = .ok survivors ∧
        emitting d (survivors.filterMap id) = mapped := by
  simp only [map_alone, Except.map_eq_ok_iff, wants.resolve_eq_ok_iff found]
  constructor
  · rintro ⟨_, ⟨survivors, each, rfl⟩, rfl⟩
    exact ⟨survivors, each, rfl⟩
  · rintro ⟨survivors, each, rfl⟩
    exact ⟨_, ⟨survivors, each, rfl⟩, rfl⟩

theorem map_array_fails_iff (wants : d.WantsArray path)
    (found : Path.getIn record path = some (.array xs)) :
    (∃ e, (alone d).map evaluate record = .error e) ↔
      ∃ item ∈ xs, ∃ e, d.element evaluate item = .error e := by
  have maps : (∃ mapped, (alone d).map evaluate record = .ok mapped) ↔
      ∃ survivors, xs.mapM (d.element evaluate) = .ok survivors := by
    simp [map_array_eq_ok_iff wants found]
  simp only [Except.exists_error_iff, maps, Except.exists_mapM_iff, not_forall, exists_prop]

-- An array made of two is mapped to what they are mapped to, one behind the other, and fails just
-- when one of them does.
theorem array_attribute_maps_elementwise (wants : d.WantsArray path)
    (front : Path.getIn left path = some (.array xs))
    (back : Path.getIn right path = some (.array ys))
    (joined : Path.getIn both path = some (.array (xs ++ ys))) :
    ((∃ e, (alone d).map evaluate both = .error e) ↔
      (∃ e, (alone d).map evaluate left = .error e) ∨
        ∃ e, (alone d).map evaluate right = .error e) ∧
    ∀ l r, (alone d).map evaluate left = .ok l → (alone d).map evaluate right = .ok r →
      ∃ us vs, l = emitting d us ∧ r = emitting d vs ∧
        (alone d).map evaluate both = .ok (emitting d (us ++ vs)) := by
  constructor
  · rw [map_array_fails_iff wants front, map_array_fails_iff wants back,
      map_array_fails_iff wants joined]
    simp only [List.mem_append, or_and_right, exists_or]
  · intro l r mapsLeft mapsRight
    obtain ⟨us, leftEach, rfl⟩ := (map_array_eq_ok_iff wants front).1 mapsLeft
    obtain ⟨vs, rightEach, rfl⟩ := (map_array_eq_ok_iff wants back).1 mapsRight
    refine ⟨_, _, rfl, rfl, ?_⟩
    rw [map_array_eq_ok_iff wants joined, ← List.filterMap_append]
    exact ⟨us ++ vs, Except.mapM_append_of_ok leftEach rightEach, rfl⟩

def mailSpecs : Record :=
  [("mails", .object [("from", .string "emails"), ("type", .string "array"),
    ("required", .bool false), ("unwind", .object [("from", .string "root.address")])])]

def mails : AttributeDefinition :=
  ⟨"mails", [.path "emails"], .array, .latest, false, [], none,
    some ⟨"mails", [.path "root.address"], .string, .latest, true, [], none, none, none⟩, none⟩

theorem array_attribute_maps_elementwise_for_mails :
    let evaluate : Evaluator := fun _ _ => .ok .null
    let mail (address : String) : Value := .object [("address", .string address)]
    let other : Value := .object [("kind", .string "none")]
    ∃ m, ofRecord (Pattern.among []) mailSpecs = .ok m ∧
      m.map evaluate [("emails", .array [mail "a@x", other, mail "", mail "b@x"])] =
        .ok [("mails", .array [.string "a@x", .string "b@x"])] := by
  intro evaluate mail other
  have found (items : List Value) : Path.getIn [("emails", .array items)] "emails" =
      some (.array items) := Path.getIn_of_plain ⟨by decide, by decide⟩ _
  have front : (alone mails).map evaluate [("emails", .array [mail "a@x", other])] =
      .ok (emitting mails [.string "a@x"]) :=
    Numeral.of_toOption_eq_some (by decide +kernel)
  have back : (alone mails).map evaluate [("emails", .array [mail "", mail "b@x"])] =
      .ok (emitting mails [.string "b@x"]) :=
    Numeral.of_toOption_eq_some (by decide +kernel)
  have wants : mails.WantsArray "emails" := ⟨rfl, by decide, rfl, rfl⟩
  obtain ⟨us, vs, left, right, both⟩ :=
    (array_attribute_maps_elementwise wants (found _) (found _) (found _)).2 _ _ front back
  obtain rfl := emitting_injective mails left
  obtain rfl := emitting_injective mails right
  exact ⟨alone mails, rfl, both⟩

end Mapper

end RecordSync
