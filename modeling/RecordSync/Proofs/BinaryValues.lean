import RecordSync.Proofs.Base64
import RecordSync.Proofs.LoneAttributes
import RecordSync.Proofs.PlainNames

set_option autoImplicit false

namespace RecordSync

namespace Binary

def listing (bytes : List UInt8) : Value := .array (bytes.map fun b => .ofNat b.toNat)

end Binary

namespace Coercion

theorem toByte_int {n : Nat} (low : n < 256)
    (inRange : -0x8000000000000000 ≤ (n : Int) ∧ (n : Int) < 0x10000000000000000) :
    toByte (.number (.int n inRange)) = .ok (UInt8.ofNat n) := by
  have within : 0 ≤ (n : Int) ∧ (n : Int) < 256 := by omega
  unfold toByte
  dsimp only
  rw [if_pos within, Int.toNat_natCast]

theorem toByte_ofNat (b : UInt8) : toByte (.ofNat b.toNat) = .ok b := by
  have low := b.toNat_lt
  generalize same : b.toNat = n at low ⊢
  have inRange : -0x8000000000000000 ≤ (n : Int) ∧ (n : Int) < 0x10000000000000000 := by omega
  have number : Value.ofNat n = .number (.int n inRange) := by
    rw [Value.ofNat, Value.ofInt, Number.ofInt?, dif_pos inRange]
  rw [number, toByte_int low, ← same, UInt8.ofNat_toNat]

theorem toBinary_listing (bytes : List UInt8) :
    toBinary (Binary.listing bytes) = .ok (Binary.wrap bytes) := by
  have read : (bytes.map fun b => Value.ofNat b.toNat).mapM toByte = .ok bytes := by
    induction bytes with
    | nil => rfl
    | cons b bytes ih =>
      rw [List.map_cons, List.mapM_cons, toByte_ofNat, ih]
      rfl
  show (List.mapM toByte _).map Binary.wrap = _
  rw [read]
  rfl

theorem toBinary_eq_ok {v w : Value} (run : toBinary v = .ok w) :
    Binary.isWrapper v = true ∧ w = v ∨
      Binary.isWrapper v = false ∧ ∃ bytes, w = Binary.wrap bytes := by
  unfold toBinary at run
  split at run
  · rename_i wrapper
    exact Or.inl ⟨wrapper, (Except.ok.inj run).symm⟩
  · rename_i other
    refine Or.inr ⟨Bool.eq_false_iff.2 other, ?_⟩
    split at run
    · exact ⟨_, (Except.ok.inj run).symm⟩
    · obtain ⟨bytes, _, rfl⟩ := Except.map_eq_ok run
      exact ⟨bytes, rfl⟩
    · cases run

end Coercion

namespace Mapper

variable {m : Mapper} {d : AttributeDefinition} {evaluate : Evaluator} {record mapped : Record}
  {v w : Value}

theorem map_of_toBinary (kind : d.kind = .binary) (present : d.ensure ≠ .absent)
    (free : d.require = none) (nonempty : (d.tried evaluate record).isEmpty = false)
    (coerced : Coercion.toBinary (d.tried evaluate record) = .ok w) :
    (alone d).map evaluate record = .ok [(d.name, w)] := by
  have passed : AttributeDefinition.mismatch? d.require (d.tried evaluate record) = none := by
    rw [free]
    rfl
  have same : Coercion.coerce d.kind (d.tried evaluate record) = .ok w := by
    rw [kind]
    exact coerced
  have holds := Coercion.holds_toBinary coerced
  cases holds
  exact map_of_coerced present nonempty passed same rfl rfl

-- Text at the path of a binary attribute is wrapped, and so are bytes that stand in front in an
-- array; a wrapper is kept.
theorem binary_attribute_wraps {path : String} (kind : d.kind = .binary)
    (present : d.ensure ≠ .absent) (source : d.sources = [.path path]) (plain : d.rewrite = [])
    (free : d.require = none) (found : Path.getIn record path = some v) :
    (∀ s, v = .string s → s ≠ "" →
      (alone d).map evaluate record = .ok [(d.name, Binary.wrap s.toUTF8.toList)]) ∧
    (Binary.isWrapper v = true → (alone d).map evaluate record = .ok [(d.name, v)]) ∧
    ∀ bytes more, v = .array (Binary.listing bytes :: more) → bytes ≠ [] →
      (alone d).map evaluate record = .ok [(d.name, Binary.wrap bytes)] := by
  have tried : d.tried evaluate record = _ := AttributeDefinition.tried_of_path source plain found
  rw [kind] at tried
  refine ⟨?_, ?_, ?_⟩
  · rintro s rfl nonempty
    refine map_of_toBinary kind present free ?_ ?_ <;> rw [tried]
    · simpa [AttributeDefinition.firstElement, Value.isEmpty] using nonempty
    · rfl
  · intro wrapper
    have single : v.isArray = false := by cases v <;> first | rfl | cases wrapper
    have first : d.tried evaluate record = v := by
      rw [tried, AttributeDefinition.firstElement_of_single single]
    refine map_of_toBinary kind present free ?_ ?_ <;> rw [first]
    · cases v <;> first | rfl | cases wrapper
    · exact if_pos wrapper
  · rintro bytes more rfl nonempty
    refine map_of_toBinary kind present free ?_ ?_ <;> rw [tried]
    · simpa [AttributeDefinition.firstElement, Binary.listing, Value.isEmpty] using nonempty
    · exact Coercion.toBinary_listing bytes

def photoSpecs : Record :=
  [("photo", .object [("from", .string "photo"), ("type", .string "binary")])]

def photo : AttributeDefinition :=
  ⟨"photo", [.path "photo"], .binary, .latest, true, [], none, none, none⟩

theorem ofRecord_photo (compile : Pattern.Compiler) :
    ofRecord compile photoSpecs = .ok (alone photo) := rfl

theorem getIn_photo (v : Value) : Path.getIn [("photo", v)] "photo" = some v :=
  Path.getIn_of_plain ⟨by decide, by decide⟩ [("photo", v)]

theorem tried_photo (evaluate : Evaluator) (single : v.isArray = false) :
    photo.tried evaluate [("photo", v)] = v := by
  rw [AttributeDefinition.tried_of_path rfl rfl (getIn_photo v),
    AttributeDefinition.firstElement_of_single single]

theorem map_photo (evaluate : Evaluator) (single : v.isArray = false) (nonempty : v.isEmpty = false)
    (coerced : Coercion.toBinary v = .ok w) :
    (alone photo).map evaluate [("photo", v)] = .ok [("photo", w)] := by
  rw [← tried_photo evaluate single] at nonempty coerced
  exact map_of_toBinary rfl (by decide) rfl nonempty coerced

theorem binary_attribute_wraps_photos :
    let evaluate : Evaluator := fun _ _ => .ok .null
    let wrapped : Value := .object [(Binary.key, .string "aGk=")]
    (alone photo).map evaluate [("photo", .string "hi")] = .ok [("photo", wrapped)] ∧
      (alone photo).map evaluate [("photo", wrapped)] = .ok [("photo", wrapped)] ∧
      (alone photo).map evaluate [("photo", .array [.array [.ofNat 104, .ofNat 105]])] =
        .ok [("photo", wrapped)] := by
  intro evaluate wrapped
  have wraps (v : Value) := @binary_attribute_wraps photo evaluate [("photo", v)] v "photo" rfl
    (by decide) rfl rfl rfl (getIn_photo v)
  have text : "hi".toUTF8.toList = [104, 105] := by decide +kernel
  have encoded : Binary.wrap [104, 105] = wrapped := by decide +kernel
  refine ⟨?_, (wraps wrapped).2.1 rfl, ?_⟩ <;> rw [← encoded]
  · rw [← text]
    exact (wraps _).1 "hi" rfl (by decide)
  · exact (wraps _).2.2 [104, 105] [] rfl (by decide)

-- The same declaration for an attribute that is to be removed.
theorem absent_photo_not_mapped :
    let specs : Record := [("photo", .object [("from", .string "photo"), ("type", .string "binary"),
      ("ensure", .string "ABSENT")])]
    ∃ m d, ofRecord (Pattern.among []) specs = .ok m ∧ m.definitions = [d] ∧ d.kind = .binary ∧
      d.sources = [.path "photo"] ∧ d.rewrite = [] ∧ d.require = none ∧
      Path.getIn [("photo", .string "hi")] "photo" = some (.string "hi") ∧
      m.map (fun _ _ => .ok .null) [("photo", .string "hi")] = .ok [] := by
  intro specs
  let d : AttributeDefinition :=
    ⟨"photo", [.path "photo"], .binary, .absent, true, [], none, none, none⟩
  refine ⟨alone d, d, rfl, rfl, rfl, rfl, rfl, rfl, getIn_photo _, ?_⟩
  rw [map_alone, AttributeDefinition.resolve_of_absent rfl]
  rfl

-- What a binary attribute holds cannot be decoded just when it was given as a wrapper whose text is
-- not base64.
theorem binary_value_decodes_unless_given (run : m.map evaluate record = .ok mapped)
    (member : d ∈ m.definitions) (kind : d.kind = .binary)
    (found : Keyed.get? d.name mapped = some v) :
    Binary.unwrap? v = none ↔
      Binary.isWrapper (d.tried evaluate record) = true ∧
        Binary.unwrap? (d.tried evaluate record) = none := by
  obtain ⟨e, there, named, resolved⟩ := mem_mapAll run (Keyed.mem_of_get? found)
  obtain rfl := eq_of_name_eq there member named
  obtain ⟨_, _, coerced, coerce, unwound⟩ := AttributeDefinition.resolve_eq_some resolved
  rw [kind] at coerce
  have whole : v = coerced := by
    rcases unwound with ⟨whole, _⟩ | ⟨_, items, _, _, array, _⟩
    · exact whole
    · subst array
      cases Coercion.holds_toBinary coerce
  subst whole
  have tried : Coercion.toBinary (e.tried evaluate record) = .ok v := by
    rw [AttributeDefinition.tried, kind]
    exact coerce
  rcases Coercion.toBinary_eq_ok tried with ⟨wrapper, rfl⟩ | ⟨other, bytes, rfl⟩
  · simp [wrapper]
  · simp [other, Binary.unwrap?_wrap]

theorem binary_value_decodes_unless_given_for_text :
    ∃ mapped v, (alone photo).map (fun _ _ => .ok .null) [("photo", .string "hi")] = .ok mapped ∧
      Keyed.get? "photo" mapped = some v ∧ Binary.unwrap? v ≠ none := by
  have run := map_photo (fun _ _ => .ok .null) (v := .string "hi") rfl rfl rfl
  refine ⟨_, _, run, rfl, ?_⟩
  have decodes := binary_value_decodes_unless_given run List.mem_cons_self rfl rfl
  rw [tried_photo _ rfl] at decodes
  rw [Ne, decodes]
  rintro ⟨⟨⟩, _⟩

-- A wrapper whose text is not base64 is mapped as it is, and cannot be decoded.
theorem broken_wrapper_mapped :
    let broken : Value := .object [(Binary.key, .string "***")]
    ∃ m mapped, ofRecord (Pattern.among []) photoSpecs = .ok m ∧
      m.map (fun _ _ => .ok .null) [("photo", broken)] = .ok mapped ∧
      ∃ d ∈ m.definitions, d.kind = .binary ∧
        ∃ v, Keyed.get? d.name mapped = some v ∧ Binary.unwrap? v = none := by
  intro broken
  have run := map_photo (fun _ _ => .ok .null) (v := broken) rfl rfl rfl
  exact ⟨alone photo, _, ofRecord_photo _, run, photo, List.mem_cons_self, rfl, broken, rfl, rfl⟩

end Mapper

end RecordSync
