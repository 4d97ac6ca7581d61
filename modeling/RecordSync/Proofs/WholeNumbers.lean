import RecordSync.Proofs.LoneAttributes
import RecordSync.Proofs.Numerals
import RecordSync.Proofs.PlainNames
import RecordSync.Proofs.WholeParts

set_option autoImplicit false

namespace RecordSync

-- The whole number that a value says: a number, or a numeral between blanks.
inductive Value.Denotes : Value → Int → Prop
  | number (n : Int) (inRange : -0x8000000000000000 ≤ n ∧ n < 0x10000000000000000) :
      Denotes (.number (.int n inRange)) n
  | numeral {s : String} {n : Int} (whole : Numeral.Whole (Text.trim s).toList n) :
      Denotes (.string s) n

theorem Value.Denotes.isEmpty {v : Value} {n : Int} (denotes : v.Denotes n) :
    v.isEmpty = false := by
  cases denotes with
  | number => rfl
  | @numeral s n whole =>
    rw [Value.isEmpty, Bool.eq_false_iff, Ne, String.isEmpty_iff]
    rintro rfl
    have nothing : (Text.trim "").toList = [] := rfl
    rw [nothing] at whole
    cases whole with
    | plain digits => exact digits.nonempty rfl

namespace Coercion

theorem toInt_number {n : Int} (inRange : -0x8000000000000000 ≤ n ∧ n < 0x10000000000000000) :
    toInt (.number (.int n inRange)) = .ok (held n) := by
  unfold toInt Number.asInt64?
  dsimp only
  split
  · rename_i signed
    rw [(held_eq_self_iff n).2 ⟨inRange.1, signed⟩]
    rfl
  · obtain ⟨m, rfl⟩ := Int.eq_ofNat_of_zero_le (a := n) (by omega)
    have far := Number.far_ofNat (n := m) (by omega)
    rw [held_of_above (by omega)]
    exact congrArg Except.ok far.wholePart

theorem toInt_numeral {s : String} {n : Int} (whole : Numeral.Whole (Text.trim s).toList n) :
    toInt (.string s) = .ok (held n) := by
  unfold toInt
  dsimp only
  rw [Numeral.int64?_eq whole]
  rcases Int.lt_or_le n (-0x8000000000000000) with below | low
  · have far := Number.far_nearest (n := (-n).toNat) (by omega)
    rw [if_neg (by omega), Numeral.float?_of_neg whole (by omega), held_of_below (by omega)]
    exact congrArg Except.ok far.neg.wholePart
  · rcases Int.lt_or_le n 0x8000000000000000 with high | above
    · rw [if_pos ⟨low, high⟩, (held_eq_self_iff n).2 ⟨low, high⟩]
    · have far := Number.far_nearest (n := n.toNat) (by omega)
      rw [if_neg (by omega), Numeral.float?_of_pos whole (by omega), held_of_above (by omega)]
      exact congrArg Except.ok far.wholePart

theorem toInt_of_denotes {v : Value} {n : Int} (denotes : v.Denotes n) :
    toInt v = .ok (held n) := by
  cases denotes with
  | number n inRange => exact toInt_number inRange
  | numeral whole => exact toInt_numeral whole

end Coercion

namespace Mapper

variable {d : AttributeDefinition} {evaluate : Evaluator} {record : Record} {n : Int}

-- Unless the required pattern refuses it, a whole number is mapped to the nearest one of the signed
-- 64-bit range. That is the number itself just when the range holds it.
theorem whole_number_held_to_range (kind : d.kind = .int) (present : d.ensure ≠ .absent)
    (denotes : (d.tried evaluate record).Denotes n) :
    ((alone d).map evaluate record =
      match AttributeDefinition.mismatch? d.require (d.tried evaluate record) with
      | some fault => .error (.resolution d.name fault)
      | none => .ok [(d.name, .ofInt (held n))]) ∧
    (held n = n ↔ -0x8000000000000000 ≤ n ∧ n < 0x8000000000000000) := by
  refine ⟨?_, held_eq_self_iff n⟩
  have nonempty := denotes.isEmpty
  cases passed : AttributeDefinition.mismatch? d.require (d.tried evaluate record) with
  | some fault =>
    rw [map_alone, AttributeDefinition.resolve_eq present, nonempty, passed]
    rfl
  | none =>
    have coerced : Coercion.coerce d.kind (d.tried evaluate record) = .ok (.ofInt (held n)) := by
      rw [kind]
      show (Coercion.toInt _).map _ = _
      rw [Coercion.toInt_of_denotes denotes]
      rfl
    have holds := Coercion.holds_ofInt (held_range n)
    generalize Value.ofInt (held n) = v at holds coerced ⊢
    cases holds
    exact map_of_coerced present nonempty passed coerced rfl rfl

def ageSpecs : Record := [("age", .object [("from", .string "age"), ("type", .string "int")])]

def age : AttributeDefinition :=
  ⟨"age", [.path "age"], .int, .latest, true, [], none, none, none⟩

theorem ofRecord_age (compile : Pattern.Compiler) :
    ofRecord compile ageSpecs = .ok (alone age) := rfl

theorem tried_age (evaluate : Evaluator) {v : Value} (single : v.isArray = false) :
    age.tried evaluate [("age", v)] = v := by
  have plain : Path.Plain "age" := ⟨by decide, by decide⟩
  rw [AttributeDefinition.tried_of_path rfl rfl (Path.getIn_of_plain plain [("age", v)]),
    AttributeDefinition.firstElement_of_single single]

theorem denotes_numerals :
    (Value.string " -0042 ").Denotes (-42) ∧
      (Value.string "99999999999999999999").Denotes 99999999999999999999 := by
  have signed : (Text.trim " -0042 ").toList = ['-', '0', '0', '4', '2'] := by decide +kernel
  have nines : (Text.trim "99999999999999999999").toList = List.replicate 20 '9' := by
    decide +kernel
  refine ⟨.numeral ?_, .numeral ?_⟩
  · rw [signed]
    exact .minus ⟨by decide, List.all_eq_true.1 (by decide)⟩
  · have value : (99999999999999999999 : Int) = Numeral.digitsValue (List.replicate 20 '9') := rfl
    rw [nines, value]
    exact .plain ⟨by decide, List.all_eq_true.1 (by decide)⟩

theorem whole_number_held_to_range_for_ages :
    let evaluate : Evaluator := fun _ _ => .ok .null
    (alone age).map evaluate [("age", .string " -0042 ")] = .ok [("age", .ofInt (-42))] ∧
      (alone age).map evaluate [("age", .string "99999999999999999999")] =
        .ok [("age", .ofInt 0x7FFFFFFFFFFFFFFF)] := by
  intro evaluate
  obtain ⟨signed, long⟩ := denotes_numerals
  rw [← tried_age evaluate (v := .string _) rfl] at signed long
  exact ⟨(whole_number_held_to_range rfl (by decide) signed).1,
    (whole_number_held_to_range rfl (by decide) long).1⟩

-- The greatest number of a document is mapped to another one, and no error is reported.
theorem greatest_number_mapped_to_another :
    let greatest : Value := .number (.int 0xFFFFFFFFFFFFFFFF (by decide))
    ∃ m mapped, ofRecord (Pattern.among []) ageSpecs = .ok m ∧
      m.map (fun _ _ => .ok .null) [("age", greatest)] = .ok mapped ∧
      Keyed.get? "age" mapped = some (.number (.int 0x7FFFFFFFFFFFFFFF (by decide))) := by
  intro greatest
  have tried := tried_age (fun _ _ => .ok .null) (v := greatest) rfl
  have coerced : Coercion.coerce .int greatest = .ok (.ofInt 0x7FFFFFFFFFFFFFFF) := by
    show (Coercion.toInt greatest).map _ = _
    rw [Coercion.toInt_of_denotes (.number _ _)]
    rfl
  rw [← tried] at coerced
  have run := map_of_coerced (d := age) (by decide) (by rw [tried]; rfl) rfl coerced rfl rfl
  exact ⟨alone age, _, ofRecord_age _, run, rfl⟩

end Mapper

end RecordSync
