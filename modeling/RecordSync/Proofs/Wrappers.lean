import Mathlib.Algebra.GroupWithZero.Nat
import Mathlib.Logic.ExistsUnique
import RecordSync.Document.Comparison
import RecordSync.Proofs.Base64

set_option autoImplicit false

namespace RecordSync

namespace Base64

def bits : Nat → Nat → List Bool
  | 0, _ => []
  | width + 1, n => n.testBit width :: bits width n

def bitsOf (bytes : List UInt8) : List Bool := (bytes.map UInt8.toNat).flatMap (bits 8)

@[simp] theorem length_bits (width n : Nat) : (bits width n).length = width := by
  induction width with
  | zero => rfl
  | succ width ih => simp [bits, ih]

theorem length_flatMap_bits (width : Nat) (ns : List Nat) :
    (ns.flatMap (bits width)).length = width * ns.length := by
  induction ns with
  | nil => rfl
  | cons n ns ih => simp [ih, Nat.mul_succ, Nat.add_comm]

theorem length_bitsOf (bytes : List UInt8) : (bitsOf bytes).length = 8 * bytes.length := by
  rw [bitsOf, length_flatMap_bits, List.length_map]

theorem bits_zero (width : Nat) : bits width 0 = List.replicate width false := by
  induction width with
  | zero => rfl
  | succ width ih => simp [bits, ih, List.replicate_succ]

theorem bits_mod {width place : Nat} (within : width ≤ place) (n : Nat) :
    bits width (n % 2 ^ place) = bits width n := by
  induction width with
  | zero => rfl
  | succ width ih =>
    have low : width < place := within
    simp [bits, ih (Nat.le_of_lt low), Nat.testBit_mod_two_pow, low]

theorem bits_of_parts (high low : Nat) {whole m n : Nat} (quotient : whole / 2 ^ low = m)
    (remainder : whole % 2 ^ low = n) : bits (high + low) whole = bits high m ++ bits low n := by
  subst quotient remainder
  -- Bits are split off at the top, and the place of what is left does not move.
  induction high with
  | zero => simp [bits, bits_mod]
  | succ high ih =>
    rw [Nat.add_right_comm, bits, bits, ih, Nat.testBit_div_two_pow]
    rfl

theorem testBit_eq_of_bits_eq {width m n : Nat} (same : bits width m = bits width n) :
    ∀ place < width, m.testBit place = n.testBit place := by
  induction width with
  | zero => exact fun place within => absurd within (Nat.not_lt_zero place)
  | succ width ih =>
    obtain ⟨first, later⟩ := List.cons.inj same
    intro place within
    rcases Nat.lt_succ_iff_lt_or_eq.1 within with below | rfl
    · exact ih later place below
    · exact first

theorem bits_inj {width m n : Nat} (mLow : m < 2 ^ width) (nLow : n < 2 ^ width)
    (same : bits width m = bits width n) : m = n := by
  refine Nat.eq_of_testBit_eq fun place => ?_
  by_cases within : place < width
  · exact testBit_eq_of_bits_eq same place within
  · have reach : 2 ^ width ≤ 2 ^ place := Nat.pow_le_pow_right (by decide) (Nat.not_lt.1 within)
    rw [Nat.testBit_lt_two_pow (Nat.lt_of_lt_of_le mLow reach),
      Nat.testBit_lt_two_pow (Nat.lt_of_lt_of_le nLow reach)]

theorem flatMap_bits_inj {width : Nat} {ms ns : List Nat} (mLow : ∀ m ∈ ms, m < 2 ^ width)
    (nLow : ∀ n ∈ ns, n < 2 ^ width) (length : ms.length = ns.length)
    (same : ms.flatMap (bits width) = ns.flatMap (bits width)) : ms = ns := by
  induction ms generalizing ns with
  | nil => exact (List.length_eq_zero_iff.1 length.symm).symm
  | cons m ms ih =>
    cases ns with
    | nil => cases length
    | cons n ns =>
      rw [List.forall_mem_cons] at mLow nLow
      obtain ⟨first, later⟩ := List.append_inj same (by simp)
      rw [bits_inj mLow.1 nLow.1 first, ih mLow.2 nLow.2 (Nat.succ.inj length) later]

-- Digits of six bits that carry some bytes. Zero bits fill up the last digit, and padding the last
-- group of four.
structure Carries (digits : List Nat) (zeros padding : Nat) (bytes : List UInt8) : Prop where
  low : ∀ d ∈ digits, d < 64
  carried : digits.flatMap (bits 6) = bitsOf bytes ++ List.replicate zeros false
  few : zeros < 6
  short : padding < 4
  whole : (digits.length + padding) % 4 = 0

-- The symbols of the digits that carry some bytes, and then the padding.
def Standard (text : List Char) (bytes : List UInt8) : Prop :=
  ∃ digits zeros padding, Carries digits zeros padding bytes ∧
    text = digits.map symbol ++ List.replicate padding '='

theorem Carries.unique {ms ns : List Nat} {zeros zeros' padding padding' : Nat}
    {bytes : List UInt8} (first : Carries ms zeros padding bytes)
    (second : Carries ns zeros' padding' bytes) : ms = ns ∧ padding = padding' := by
  obtain ⟨mLow, mCarried, mFew, mShort, mWhole⟩ := first
  obtain ⟨nLow, nCarried, nFew, nShort, nWhole⟩ := second
  have mSize := congrArg List.length mCarried
  have nSize := congrArg List.length nCarried
  simp only [length_flatMap_bits, length_bitsOf, List.length_append,
    List.length_replicate] at mSize nSize
  -- Both lengths are the least multiple of six that holds eight bits for each byte.
  obtain rfl : zeros = zeros' := by omega
  have length : ms.length = ns.length := by omega
  exact ⟨flatMap_bits_inj mLow nLow length (mCarried.trans nCarried.symm), by omega⟩

theorem carries_nil : Carries [] 0 0 [] :=
  ⟨by simp, rfl, by decide, by decide, rfl⟩

section Groups

variable (a : Nat) {b c : Nat}

theorem bits_three_bytes (bLow : b < 256) (cLow : c < 256) :
    bits 6 (a / 4) ++ (bits 6 (a % 4 * 16 + b / 16) ++
        (bits 6 (b % 16 * 4 + c / 64) ++ bits 6 (c % 64))) =
      bits 8 a ++ (bits 8 b ++ bits 8 c) := by
  have first : bits 8 a = bits 6 (a / 4) ++ bits 2 (a % 4) := bits_of_parts 6 2 rfl rfl
  have second : bits 8 b = bits 4 (b / 16) ++ bits 4 (b % 16) := bits_of_parts 4 4 rfl rfl
  have third : bits 8 c = bits 2 (c / 64) ++ bits 6 (c % 64) := bits_of_parts 2 6 rfl rfl
  -- Two of the digits end one byte and begin the next.
  have between : bits 6 (a % 4 * 16 + b / 16) = bits 2 (a % 4) ++ bits 4 (b / 16) :=
    bits_of_parts 2 4 (by omega) (by omega)
  have between' : bits 6 (b % 16 * 4 + c / 64) = bits 4 (b % 16) ++ bits 2 (c / 64) :=
    bits_of_parts 4 2 (by omega) (by omega)
  simp only [first, second, third, between, between', List.append_assoc]

-- Bytes that are missing from a group count as zeros, and digits that carry nothing else are left out.
theorem bits_one_byte :
    bits 6 (a / 4) ++ bits 6 (a % 4 * 16) = bits 8 a ++ List.replicate 4 false := by
  have full := bits_three_bytes a (b := 0) (c := 0) (by decide) (by decide)
  exact (List.append_left_inj (List.replicate 12 false)).1 (by simpa [bits_zero] using full)

theorem bits_two_bytes (bLow : b < 256) :
    bits 6 (a / 4) ++ (bits 6 (a % 4 * 16 + b / 16) ++ bits 6 (b % 16 * 4)) =
      bits 8 a ++ (bits 8 b ++ List.replicate 2 false) := by
  have full := bits_three_bytes a bLow (c := 0) (by decide)
  exact (List.append_left_inj (List.replicate 6 false)).1 (by simpa [bits_zero] using full)

end Groups

theorem carries_one (a : UInt8) : Carries [a.toNat / 4, a.toNat % 4 * 16] 4 2 [a] := by
  have aLow := a.toNat_lt
  refine ⟨?_, ?_, by decide, by decide, by simp⟩
  · simp only [List.forall_mem_cons, List.not_mem_nil, false_implies, implies_true, and_true]
    omega
  · simpa [bitsOf] using bits_one_byte a.toNat

theorem carries_two (a b : UInt8) :
    Carries [a.toNat / 4, a.toNat % 4 * 16 + b.toNat / 16, b.toNat % 16 * 4] 2 1 [a, b] := by
  have aLow := a.toNat_lt
  have bLow := b.toNat_lt
  refine ⟨?_, ?_, by decide, by decide, by simp⟩
  · simp only [List.forall_mem_cons, List.not_mem_nil, false_implies, implies_true, and_true]
    omega
  · simpa [bitsOf] using bits_two_bytes a.toNat bLow

theorem Carries.cons {digits : List Nat} {zeros padding : Nat} {bytes : List UInt8}
    (rest : Carries digits zeros padding bytes) (a b c : UInt8) :
    Carries (a.toNat / 4 :: (a.toNat % 4 * 16 + b.toNat / 16) ::
      (b.toNat % 16 * 4 + c.toNat / 64) :: c.toNat % 64 :: digits) zeros padding
      (a :: b :: c :: bytes) := by
  have aLow := a.toNat_lt
  have bLow := b.toNat_lt
  have cLow := c.toNat_lt
  refine ⟨?_, ?_, rest.few, rest.short, ?_⟩
  · simp only [List.forall_mem_cons]
    exact ⟨by omega, by omega, by omega, by omega, rest.low⟩
  · have group := congrArg (· ++ digits.flatMap (bits 6)) (bits_three_bytes a.toNat bLow cLow)
    simpa [bitsOf, rest.carried] using group
  · have whole := rest.whole
    simp only [List.length_cons]
    omega

theorem standard_encode (bytes : List UInt8) : Standard (encode bytes) bytes := by
  induction bytes using encode.induct with
  | case1 => exact ⟨_, _, _, carries_nil, rfl⟩
  | case2 a => exact ⟨_, _, _, carries_one a, by simp [encode, List.replicate]⟩
  | case3 a b => exact ⟨_, _, _, carries_two a b, by simp [encode, List.replicate]⟩
  | case4 a b c rest _ _ _ _ ih =>
    obtain ⟨digits, zeros, padding, carries, text⟩ := ih
    exact ⟨_, _, _, carries.cons a b c, by simp [encode, text]⟩

theorem standard_iff {text : List Char} {bytes : List UInt8} :
    Standard text bytes ↔ text = encode bytes := by
  constructor
  · rintro ⟨digits, zeros, padding, carries, rfl⟩
    obtain ⟨digits', zeros', padding', carries', same⟩ := standard_encode bytes
    obtain ⟨rfl, rfl⟩ := carries.unique carries'
    exact same.symm
  · rintro rfl
    exact standard_encode bytes

end Base64

namespace Binary

-- Wrapping is a bijection between lists of bytes and the values that are read as bytes. What it
-- gives is an object of a single key, which holds the one text that standard base64 has for the
-- bytes.
theorem wrapping_is_bijective (bytes : List UInt8) :
    (∀ v, unwrap? v = some bytes ↔ v = wrap bytes) ∧
      (∃ text, wrap bytes = .object [("$binary", .string text)] ∧
        ∀ other, Base64.Standard other bytes ↔ other = text.toList) ∧
      unwrap? (wrap bytes) = some bytes ∧ ∃! v, unwrap? v = some bytes := by
  refine ⟨fun v => unwrap?_eq_some_iff, ⟨_, rfl, fun other => ?_⟩, unwrap?_wrap bytes,
    wrap bytes, unwrap?_wrap bytes, fun v => unwrap?_eq_some_iff.1⟩
  rw [Base64.standard_iff, String.toList_ofList]

-- Two bytes are read from one text only: not without the padding, with a bit set among the unused
-- ones or beside a second key.
example : unwrap? (.object [("$binary", .string "aGk=")]) = some [104, 105] ∧
    unwrap? (.object [("$binary", .string "aGk")]) = none ∧
    unwrap? (.object [("$binary", .string "aGl=")]) = none ∧
    unwrap? (.object [("$binary", .string "aGk="), ("extra", .null)]) = none := by
  decide +kernel

end Binary

end RecordSync
