import Mathlib.Data.List.TakeWhile
import RecordSync.Number.Numeral

set_option autoImplicit false

namespace RecordSync.Numeral

structure Digits (cs : List Char) : Prop where
  nonempty : cs ≠ []
  digit : ∀ c ∈ cs, isDigit c = true

-- Digits of any number behind an optional sign, and the whole number that they write.
inductive Whole : List Char → Int → Prop
  | plain {ds : List Char} (digits : Digits ds) : Whole ds (digitsValue ds)
  | plus {ds : List Char} (digits : Digits ds) : Whole ('+' :: ds) (digitsValue ds)
  | minus {ds : List Char} (digits : Digits ds) : Whole ('-' :: ds) (-digitsValue ds)

def valueFrom (acc : Nat) (cs : List Char) : Nat :=
  cs.foldl (fun acc c => acc * 10 + (digit? c).getD 0) acc

theorem valueFrom_cons (acc : Nat) (c : Char) (cs : List Char) :
    valueFrom acc (c :: cs) = valueFrom (acc * 10 + (digit? c).getD 0) cs := rfl

theorem le_valueFrom (acc : Nat) (cs : List Char) : acc ≤ valueFrom acc cs := by
  induction cs generalizing acc with
  | nil => exact Nat.le_refl acc
  | cons c cs ih =>
    have later := ih (acc * 10 + (digit? c).getD 0)
    rw [valueFrom_cons]
    omega

theorem natWithin_eq {bound acc : Nat} {cs : List Char} (digit : ∀ c ∈ cs, isDigit c = true)
    (start : acc ≤ bound) :
    natWithin bound acc cs =
      if valueFrom acc cs ≤ bound then .ok (valueFrom acc cs) else .error .tooLarge := by
  induction cs generalizing acc with
  | nil => exact (if_pos start).symm
  | cons c cs ih =>
    obtain ⟨first, later⟩ := List.forall_mem_cons.1 digit
    obtain ⟨d, read⟩ := Option.isSome_iff_exists.1 first
    rw [natWithin, valueFrom_cons, read]
    dsimp only [Option.getD_some]
    split
    · rename_i within
      exact ih later within
    · -- A value that is too large stays too large.
      have grown := le_valueFrom (acc * 10 + d) cs
      rw [if_neg (by omega)]

namespace Digits

variable {ds : List Char}

theorem head_ne (digits : Digits ds) {mark : Char} (other : isDigit mark = false)
    (rest : List Char) : ds ≠ mark :: rest := by
  rintro rfl
  rw [digits.digit mark List.mem_cons_self] at other
  cases other

theorem natWithin (digits : Digits ds) (bound : Nat) :
    (natWithin bound 0 ds).toOption =
      if digitsValue ds ≤ bound then some (digitsValue ds) else none := by
  rw [natWithin_eq digits.digit (Nat.zero_le bound)]
  show (if digitsValue ds ≤ bound then _ else _ : Except NumeralError Nat).toOption = _
  split <;> rfl

theorem nat?_plain (digits : Digits ds) (bound : Nat) :
    nat? bound ds = Numeral.natWithin bound 0 ds := by
  unfold nat?
  split
  · exact absurd rfl digits.nonempty
  · exact absurd rfl (digits.head_ne (by decide) [])
  · exact absurd rfl (digits.head_ne (by decide) _)
  · rfl

theorem nat?_plus (digits : Digits ds) (bound : Nat) :
    nat? bound ('+' :: ds) = Numeral.natWithin bound 0 ds := by
  cases ds with
  | nil => exact absurd rfl digits.nonempty
  | cons c cs => rfl

theorem map_lowerAscii (digits : Digits ds) : ds.map lowerAscii = ds := by
  refine (List.map_congr_left fun c member => ?_).trans (List.map_id ds)
  have digit := digits.digit c member
  unfold isDigit digit? at digit
  split at digit
  · rename_i range
    refine if_neg fun upper => absurd (Char.le_trans upper.1 range.2) (by decide)
  · cases digit

theorem unsignedFloat? (digits : Digits ds) :
    unsignedFloat? ds = some (nearest (digitsValue ds) 0) := by
  have nonempty : ds.isEmpty = false := by simpa using digits.nonempty
  have taken : ds.takeWhile isDigit = ds := List.takeWhile_eq_self_iff.2 digits.digit
  have dropped : ds.dropWhile isDigit = [] := List.dropWhile_eq_nil_iff.2 digits.digit
  unfold Numeral.unsignedFloat?
  rw [digits.map_lowerAscii]
  split
  · exact absurd rfl (digits.head_ne (by decide) _)
  · exact absurd rfl (digits.head_ne (by decide) _)
  · exact absurd rfl (digits.head_ne (by decide) _)
  · simp [taken, dropped, nonempty, exponent?]

end Digits

theorem int64?_eq {cs : List Char} {n : Int} (whole : Whole cs n) :
    int64? cs =
      if -0x8000000000000000 ≤ n ∧ n < 0x8000000000000000 then some n else none := by
  cases whole with
  | @plain ds digits =>
    unfold int64?
    split
    · exact absurd rfl (digits.head_ne (by decide) _)
    · rw [digits.nat?_plain, digits.natWithin]
      grind
  | @plus ds digits =>
    show (nat? 0x7FFFFFFFFFFFFFFF ('+' :: ds)).toOption.map Int.ofNat = _
    rw [digits.nat?_plus, digits.natWithin]
    grind
  | @minus ds digits =>
    have nonempty : ds.isEmpty = false := by simpa using digits.nonempty
    show (if ds.isEmpty then none else _) = _
    rw [nonempty, digits.natWithin]
    grind

theorem float?_of_pos {cs : List Char} {n : Int} (whole : Whole cs n) (pos : 0 < n) :
    float? cs = some (nearest n.toNat 0) := by
  cases whole with
  | plain digits =>
    unfold float?
    split
    · exact absurd rfl (digits.head_ne (by decide) _)
    · exact absurd rfl (digits.head_ne (by decide) _)
    · exact digits.unsignedFloat?
  | plus digits => exact digits.unsignedFloat?
  | minus digits => omega

theorem float?_of_neg {cs : List Char} {n : Int} (whole : Whole cs n) (neg : n < 0) :
    float? cs = some (-nearest (-n).toNat 0) := by
  cases whole with
  | plain digits => omega
  | plus digits => omega
  | minus digits =>
    show (unsignedFloat? _).map _ = _
    rw [digits.unsignedFloat?, Int.neg_neg]
    rfl

end RecordSync.Numeral
