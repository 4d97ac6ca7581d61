import Mathlib
import RecordSync.Proofs.Magnitudes

set_option autoImplicit false

namespace RecordSync.Number

open Float.Model Float.Model.UnpackedFloat

def nearest (m d : Nat) : Nat :=
  if 2 * (m % d) < d then m / d
  else if 2 * (m % d) = d then m / d + m / d % 2
  else m / d + 1

section Nearest

variable {m d : Nat}

theorem nearest_mul (m d : Nat) {c : Nat} (pos : 0 < c) :
    nearest (m * c) (d * c) = nearest m d := by
  have less : 2 * (m % d * c) < d * c ↔ 2 * (m % d) < d := by
    rw [← Nat.mul_assoc, Nat.mul_lt_mul_right pos]
  have same : 2 * (m % d * c) = d * c ↔ 2 * (m % d) = d := by
    rw [← Nat.mul_assoc, Nat.mul_right_cancel_iff pos]
  simp only [nearest, Nat.mul_mod_mul_right, Nat.mul_div_mul_right _ _ pos, less, same]

theorem nearest_one (m : Nat) : nearest m 1 = m := by
  simp [nearest, Nat.mod_one]

theorem nearest_mul_self (m : Nat) (pos : 0 < d) : nearest (m * d) d = m := by
  simpa [nearest_one] using nearest_mul m 1 pos

theorem div_le_nearest : m / d ≤ nearest m d := by
  grind [nearest]

theorem nearest_le_div : nearest m d ≤ m / d + 1 := by
  grind [nearest]

structure Keeps (em : ExtendedMantissa) (m d : Nat) : Prop where
  quotient : em.mantissa = m / d
  half : em.roundBit = decide (d ≤ 2 * (m % d))
  rest : em.stickyBit = decide (2 * (m % d) % d ≠ 0)

theorem Keeps.whole (m : Nat) : Keeps ⟨m, false, false⟩ m 1 where
  quotient := by simp
  half := by simp [Nat.mod_one]
  rest := by simp [Nat.mod_one]

theorem Keeps.shifted {em : ExtendedMantissa} (keeps : Keeps em m d) (pos : 0 < d) :
    Keeps em.shiftRightOne m (d * 2) := by
  obtain ⟨quotient, half, rest⟩ := keeps
  have below := Nat.mod_lt m pos
  have split : m % (d * 2) = m % d + d * (m / d % 2) := Nat.mod_mul
  refine ⟨?_, ?_, ?_⟩
  · show em.mantissa / 2 = _
    rw [quotient, Nat.div_div_eq_div_mul]
  · show (em.mantissa % 2 != 0) = _
    rw [quotient, split]
    rcases Nat.mod_two_eq_zero_or_one (m / d) with even | odd
    · simp [even]; omega
    · simp [odd]; omega
  · -- The bit that was behind the point joins the rest, which is nonzero if either was.
    show (em.roundBit || em.stickyBit) = _
    have residue : 2 * (m % (d * 2)) % (d * 2) = 2 * (m % d) := by
      rw [Nat.mul_comm d 2, Nat.mul_mod_mul_left, Nat.mul_comm 2 d, Nat.mod_mul_right_mod]
    rw [half, rest, residue, ← Bool.decide_or, decide_eq_decide]
    rcases Nat.lt_or_ge (2 * (m % d)) d with below | above
    · rw [Nat.mod_eq_of_lt below]
      omega
    · omega

theorem keeps_shiftRight (m k : Nat) :
    Keeps ((⟨m, false, false⟩ : ExtendedMantissa) >>> k) m (2 ^ k) := by
  induction k with
  | zero => exact .whole m
  | succ k ih => exact ih.shifted (Nat.two_pow_pos k)

theorem Keeps.rounded {em : ExtendedMantissa} (keeps : Keeps em m d) (pos : 0 < d) :
    em.roundedMantissa = nearest m d := by
  obtain ⟨mantissa, roundBit, stickyBit⟩ := em
  obtain ⟨rfl, rfl, rfl⟩ := keeps
  have below := Nat.mod_lt m pos
  unfold ExtendedMantissa.roundedMantissa nearest
  rcases Nat.lt_trichotomy (2 * (m % d)) d with less | same | more
  · rw [if_pos less, decide_eq_false (Nat.not_le.2 less)]
    cases decide (2 * (m % d) % d ≠ 0) <;> rfl
  · rw [if_neg (by omega), if_pos same, same, Nat.mod_self, decide_eq_true (Nat.le_refl d)]
    rfl
  · have half : d ≤ 2 * (m % d) := Nat.le_of_lt more
    have rest : 2 * (m % d) % d ≠ 0 := by
      rw [Nat.mod_eq_sub_mod half, Nat.mod_eq_of_lt (by omega)]
      omega
    rw [if_neg (Nat.not_lt.2 half), if_neg (Nat.ne_of_gt more), decide_eq_true half,
      decide_eq_true rest]
    rfl

end Nearest

def Stands (u : UnpackedFloat) (s : Sign) (parts : Nat × Int) : Prop :=
  ∃ pos, u = .finite s parts.1 parts.2 pos

-- A significand that was rounded up to 54 bits goes one exponent up.
def carry (r : Nat) (e : Int) : Nat × Int :=
  if r < 2 ^ 53 then (r, e) else (2 ^ 52, e + 1)

section Rounding

variable {m r : Nat} {e : Int} {s : Sign}

theorem log2_eq_of_normal (low : 2 ^ 52 ≤ r) (high : r < 2 ^ 53) : r.log2 = 52 :=
  (Nat.log2_eq_iff (by omega)).2 ⟨low, high⟩

theorem shift_exact (wide : 52 ≤ m.log2) (normal : -1022 ≤ m.log2 + e) :
    shiftToTargetExponent .binary64 m e .exact =
      ((⟨m, false, false⟩ : ExtendedMantissa) >>> (m.log2 - 52), e + (m.log2 - 52 : Nat)) := by
  have target : Format.binary64.targetExponent (totalExponent m e) = m.log2 + e - 52 := by
    simp only [Format.targetExponent, totalExponent, Format.mantissaBits, Format.minExponent]
    omega
  have amount : (m.log2 + e - 52 - e).toNat = m.log2 - 52 := by omega
  simp only [shiftToTargetExponent, shiftToExponent, target, amount]
  rfl

theorem nearest_bounds (wide : 52 ≤ m.log2) :
    2 ^ 52 ≤ nearest m (2 ^ (m.log2 - 52)) ∧ nearest m (2 ^ (m.log2 - 52)) ≤ 2 ^ 53 := by
  have low : 2 ^ 52 ≤ m / 2 ^ (m.log2 - 52) := by
    rw [Nat.le_div_iff_mul_le (Nat.two_pow_pos _), ← Nat.pow_add, Nat.add_sub_cancel' wide]
    exact Nat.log2_self_le (by rintro rfl; simp at wide)
  have high : m / 2 ^ (m.log2 - 52) < 2 ^ 53 := by
    rw [Nat.div_lt_iff_lt_mul (Nat.two_pow_pos _), ← Nat.pow_add]
    exact Nat.lt_of_lt_of_eq Nat.lt_log2_self (congrArg _ (by omega))
  exact ⟨Nat.le_trans low div_le_nearest, Nat.le_trans nearest_le_div high⟩

theorem shift_carried (low : 2 ^ 52 ≤ r) (high : r ≤ 2 ^ 53) (normal : -1074 ≤ e) :
    ((shiftToTargetExponent .binary64 r e .exact).1.mantissa,
      (shiftToTargetExponent .binary64 r e .exact).2) = carry r e := by
  rcases Nat.lt_or_eq_of_le high with below | rfl
  · have width := log2_eq_of_normal low below
    rw [shift_exact (by omega) (by omega), width, carry, if_pos below]
    exact Prod.ext rfl (Int.add_zero e)
  · rw [shift_exact (by decide) (by rw [Nat.log2_two_pow]; omega), Nat.log2_two_pow]
    rfl

theorem carry_bounds (e : Int) (low : 2 ^ 52 ≤ r) :
    2 ^ 52 ≤ (carry r e).1 ∧ (carry r e).1 < 2 ^ 53 ∧ e ≤ (carry r e).2 ∧
      (carry r e).2 ≤ e + 1 := by
  unfold carry
  split
  · exact ⟨low, ‹_›, Int.le_refl e, by omega⟩
  · exact ⟨Nat.le_refl _, by norm_num, by omega, Int.le_refl _⟩

theorem stands_round (s : Sign) (wide : 52 ≤ m.log2) (normal : -1022 ≤ m.log2 + e) :
    Stands (roundWithAccuracy .binary64 s m e .exact) s
      (carry (nearest m (2 ^ (m.log2 - 52))) (e + (m.log2 - 52 : Nat))) := by
  obtain ⟨low, high⟩ := nearest_bounds wide
  have rounded := (keeps_shiftRight m (m.log2 - 52)).rounded (Nat.two_pow_pos _)
  have carried := shift_carried low high (e := e + (m.log2 - 52 : Nat)) (by omega)
  have filled := (carry_bounds (e + (m.log2 - 52 : Nat)) low).1
  simp only [roundWithAccuracy, shift_exact wide normal, rounded, ← carried]
  rw [← carried] at filled
  have pos := Nat.lt_of_lt_of_le (Nat.two_pow_pos 52) filled
  rw [dif_neg (Nat.ne_of_gt pos)]
  exact ⟨pos, rfl⟩

end Rounding

structure Normal (parts : Nat × Int) : Prop where
  low : 2 ^ 52 ≤ parts.1
  high : parts.1 < 2 ^ 53
  least : -1022 ≤ parts.2
  most : parts.2 ≤ 971

section Packing

variable {s : Sign} {m biased : Nat} {parts : Nat × Int} {u : UnpackedFloat}

theorem pack_normal (width : m.log2 = 52) (below : biased < 2047) (pos : 0 < m) :
    UnpackedFloat.pack .binary64 (.finite s m (biased - 1075) pos) =
      packComponents .binary64 s (BitVec.ofNat 11 biased) (BitVec.ofNat 52 m) := by
  have bias : ((biased : Int) - 1075 + Format.binary64.exponentBias +
      Format.binary64.mantissaBitsWithoutImplicit).toNat = biased := by
    show ((biased : Int) - 1075 + 1023 + 52).toNat = biased
    omega
  unfold UnpackedFloat.pack
  dsimp only
  rw [bias, width, if_neg (by simp; omega), if_pos (by decide)]

theorem one_append (m : BitVec 52) : (1#1 ++ m).toNat = 2 ^ 52 + m.toNat := by
  rw [BitVec.toNat_append, ← Nat.shiftLeft_add_eq_or_of_lt m.isLt, Nat.shiftLeft_eq]
  simp

theorem unpack_normal (low : 2 ^ 52 ≤ m) (high : m < 2 ^ 53) (above : 0 < biased)
    (below : biased < 2047) :
    ∃ pos, UnpackedFloat.unpack .binary64
        (packComponents .binary64 s (BitVec.ofNat 11 biased) (BitVec.ofNat 52 m)) =
      .finite s m (biased - 1075) pos := by
  have kept : (BitVec.ofNat 11 biased).toNat = biased := by
    rw [BitVec.toNat_ofNat, Nat.mod_eq_of_lt (by omega)]
  have notOnes : BitVec.ofNat 11 biased ≠ -1#11 := by
    rw [Ne, ← BitVec.toNat_inj, kept]
    exact Nat.ne_of_lt below
  have notZero : BitVec.ofNat 11 biased ≠ 0#11 := by
    rw [Ne, ← BitVec.toNat_inj, kept]
    exact Nat.ne_of_gt above
  have whole : (1#1 ++ BitVec.ofNat 52 m).toNat = m := by
    rw [one_append, BitVec.toNat_ofNat]
    omega
  unfold UnpackedFloat.unpack
  simp only [unpackMantissa_packComponents, unpackExponent_packComponents,
    unpackSign_packComponents, Sign.ofBitVec_toBitVec]
  rw [if_neg notOnes, if_neg notZero]
  refine ⟨by omega, ?_⟩
  simp only [whole, kept]
  rfl

theorem Stands.unpack_pack (stands : Stands u s parts) (normal : Normal parts) :
    Stands (Float.Model.pack u).unpack s parts := by
  obtain ⟨m, e⟩ := parts
  obtain ⟨pos, rfl⟩ := stands
  obtain ⟨low, high, least, most⟩ := normal
  dsimp only at low high least most
  obtain ⟨biased, rfl⟩ : ∃ biased : Nat, e = biased - 1075 := ⟨(e + 1075).toNat, by omega⟩
  show Stands (UnpackedFloat.unpack .binary64 (UnpackedFloat.pack .binary64 _)) _ _
  rw [pack_normal (log2_eq_of_normal low high) (by omega) pos]
  exact unpack_normal low high (by omega) (by omega)

end Packing

section WholeNumbers

variable {n : Nat}

-- The significand and the exponent of the float nearest to a whole number.
def standing (n : Nat) : Nat × Int :=
  carry (nearest (n * 2 ^ 53) (2 ^ (n.log2 + 1))) (n.log2 - 52)

theorem standing_of_fits (fits : n < 2 ^ 53) (pos : 0 < n) :
    standing n = (n * 2 ^ (52 - n.log2), (n.log2 : Int) - 52) := by
  have width : n.log2 < 53 := (Nat.log2_lt (Nat.ne_of_gt pos)).2 fits
  have split : n * 2 ^ 53 = n * 2 ^ (52 - n.log2) * 2 ^ (n.log2 + 1) := by
    rw [Nat.mul_assoc, ← Nat.pow_add]
    congr 2
    omega
  have below : n * 2 ^ (52 - n.log2) < 2 ^ 53 := by
    have high := Nat.mul_lt_mul_of_pos_right (Nat.lt_log2_self (n := n))
      (Nat.two_pow_pos (52 - n.log2))
    rwa [← Nat.pow_add, show n.log2 + 1 + (52 - n.log2) = 53 by omega] at high
  rw [standing, split, nearest_mul_self _ (Nat.two_pow_pos _), carry, if_pos below]

theorem log2_shiftLeft (k : Nat) (pos : 0 < n) : (n <<< k).log2 = n.log2 + k := by
  rw [Nat.shiftLeft_eq, Nat.log2_eq_iff (Nat.ne_of_gt (Nat.mul_pos pos (Nat.two_pow_pos k)))]
  have high := Nat.mul_lt_mul_of_pos_right (Nat.lt_log2_self (n := n)) (Nat.two_pow_pos k)
  rw [← Nat.pow_add] at high
  refine ⟨?_, Nat.lt_of_lt_of_eq high (congrArg _ (by omega))⟩
  rw [Nat.pow_add]
  exact Nat.mul_le_mul_right _ (Nat.log2_self_le (Nat.ne_of_gt pos))

theorem stands_ofScientific (pos : 0 < n) :
    Stands (UnpackedFloat.ofScientific .binary64 n 0) .positive (standing n) := by
  have width := log2_shiftLeft 53 pos
  have stands := stands_round (m := n <<< 53) (e := -53) .positive (by omega) (by omega)
  have amount : (n <<< 53).log2 - 52 = n.log2 + 1 := by omega
  have exponent : -53 + ((n.log2 + 1 : Nat) : Int) = n.log2 - 52 := by omega
  rw [amount, exponent, Nat.shiftLeft_eq] at stands
  have least : ¬ (0 : Int) < -(2 ^ 11 + n.log2) := by omega
  unfold UnpackedFloat.ofScientific
  rw [dif_neg (Nat.ne_of_gt pos), if_neg (by decide), if_neg least, if_pos (by decide)]
  have sign : (Sign.positive * Sign.positive) = .positive := rfl
  simpa [UnpackedFloat.mul, standing, sign, Format.mantissaBits, Nat.shiftLeft_eq] using stands

theorem standing_bounds (pos : 0 < n) :
    2 ^ 52 ≤ (standing n).1 ∧ (standing n).1 < 2 ^ 53 ∧ (n.log2 : Int) - 52 ≤ (standing n).2 ∧
      (standing n).2 ≤ n.log2 - 52 + 1 := by
  have wide := log2_shiftLeft 53 pos
  obtain ⟨low, _⟩ := nearest_bounds (m := n <<< 53) (by omega)
  rw [show (n <<< 53).log2 - 52 = n.log2 + 1 by omega, Nat.shiftLeft_eq] at low
  exact carry_bounds (n.log2 - 52) low

theorem standing_normal (pos : 0 < n) (below : n < 2 ^ 64) : Normal (standing n) := by
  have width : n.log2 < 64 := (Nat.log2_lt (Nat.ne_of_gt pos)).2 below
  obtain ⟨low, high, least, most⟩ := standing_bounds pos
  exact ⟨low, high, Int.le_trans (by omega) least, Int.le_trans most (by omega)⟩

theorem ofNat_of_large (large : 2 ^ 53 ≤ n) :
    Float.ofNat n = Float.ofModel (Float.Model.ofScientific n 0) := by
  show Float.ofScientific n false 0 = _
  unfold Float.ofScientific
  rw [dif_neg (by omega)]
  rfl

theorem stands_large (large : 2 ^ 53 ≤ n) (below : n < 2 ^ 64) :
    Stands (Float.ofNat n).toModel.unpack .positive (standing n) := by
  have pos : 0 < n := by omega
  rw [ofNat_of_large large]
  exact (stands_ofScientific pos).unpack_pack (standing_normal pos below)

theorem stands_round_of_fits (pos : 0 < n) (fits : n < 2 ^ 53) :
    Stands (UnpackedFloat.round .binary64 .positive n 0) .positive (standing n) := by
  have width : n.log2 ≤ 52 := Nat.le_of_lt_succ ((Nat.log2_lt (Nat.ne_of_gt pos)).2 fits)
  have filled : (n <<< (52 - n.log2)).log2 = 52 := by
    rw [log2_shiftLeft _ pos]
    omega
  have target : Format.binary64.targetExponent (totalExponent n 0) = n.log2 - 52 := by
    simp only [Format.targetExponent, totalExponent, Format.mantissaBits, Format.minExponent]
    omega
  have amount : (0 - ((n.log2 : Int) - 52)).toNat = 52 - n.log2 := by omega
  have exponent : (0 : Int) - (52 - n.log2 : Nat) = n.log2 - 52 := by omega
  have high : n <<< (52 - n.log2) < 2 ^ 53 := by
    rw [← Nat.log2_lt (by rintro zero; simp [zero] at filled)]
    omega
  have stands := stands_round (m := n <<< (52 - n.log2)) (e := n.log2 - 52) .positive (by omega)
    (by omega)
  rw [filled, Nat.sub_self, Nat.pow_zero, nearest_one, carry, if_pos high] at stands
  simp only [UnpackedFloat.round, decreaseExponent, target, amount, exponent]
  rw [standing_of_fits fits pos, ← Nat.shiftLeft_eq]
  simpa using stands

theorem Stands.mul_one {u : UnpackedFloat} {parts : Nat × Int} (stands : Stands u .positive parts)
    (normal : Normal parts) :
    Stands (UnpackedFloat.mul .binary64 u (.finite .positive (2 ^ 52) (-52) (by decide))) .positive
      parts := by
  obtain ⟨m, e⟩ := parts
  obtain ⟨pos, rfl⟩ := stands
  obtain ⟨low, high, least, _⟩ := normal
  dsimp only at low high least
  have wide : (m * 2 ^ 52).log2 = 104 := by
    rw [← Nat.shiftLeft_eq, log2_shiftLeft 52 pos, log2_eq_of_normal low high]
  have rounded := stands_round (m := m * 2 ^ 52) (e := e + -52) .positive (by omega) (by omega)
  have exponent : e + -52 + (104 - 52 : Nat) = e := by omega
  rw [wide, nearest_mul_self m (Nat.two_pow_pos _), carry, if_pos high, exponent] at rounded
  have sign : (Sign.positive * Sign.positive) = .positive := rfl
  simpa only [UnpackedFloat.mul, sign] using rounded

theorem stands_toFloat (pos : 0 < n) (fits : n < 2 ^ 53) :
    Stands n.toUInt64.toFloat.toModel.unpack .positive (standing n) := by
  have kept : n.toUInt64.toNat = n := Nat.mod_eq_of_lt (by omega)
  have greater : compare (n : Int) 0 = .gt := Int.compare_eq_gt.2 (by omega)
  have converted : UnpackedFloat.ofUInt64 .binary64 n.toUInt64 =
      UnpackedFloat.round .binary64 .positive n 0 := by
    simp [UnpackedFloat.ofUInt64, UnpackedFloat.ofNat, UnpackedFloat.ofInt, UnpackedFloat.normalize,
      kept, greater]
  show Stands (Float.Model.pack (UnpackedFloat.ofUInt64 .binary64 n.toUInt64)).unpack _ _
  rw [converted]
  exact (stands_round_of_fits pos fits).unpack_pack (standing_normal pos (by omega))

theorem stands_small (pos : 0 < n) (fits : n < 2 ^ 53) :
    Stands (Float.ofNat n).toModel.unpack .positive (standing n) := by
  -- A shorter one is converted and multiplied by the float that is one.
  have fast : Float.ofNat n = n.toUInt64.toFloat * Float.ofBits 0x3FF0000000000000 := by
    show Float.ofScientific n false 0 = _
    unfold Float.ofScientific
    rw [dif_pos (by omega)]
    rfl
  have one : (Float.ofBits 0x3FF0000000000000).toModel.unpack =
      .finite .positive (2 ^ 52) (-52) (by decide) := rfl
  have normal := standing_normal pos (by omega)
  have product := (stands_toFloat pos fits).mul_one normal
  rw [← one] at product
  rw [fast]
  exact product.unpack_pack normal

theorem stands_ofNat (pos : 0 < n) (below : n < 2 ^ 64) :
    Stands (Float.ofNat n).toModel.unpack .positive (standing n) := by
  rcases Nat.lt_or_ge n (2 ^ 53) with fits | large
  · exact stands_small pos fits
  · exact stands_large large below

theorem stands_neg_ofNat (pos : 0 < n) (below : n < 2 ^ 64) :
    Stands (Float.ofNat n).neg.toModel.unpack .negative (standing n) := by
  obtain ⟨filled, same⟩ := stands_ofNat pos below
  have turned : Stands (Float.ofNat n).toModel.unpack.neg .negative (standing n) :=
    ⟨filled, by rw [same]; rfl⟩
  exact turned.unpack_pack (standing_normal pos below)

end WholeNumbers

def signOf (n : Int) : Sign :=
  if 0 < n then .positive else .negative

theorem stands_ofInt {n : Int} (nonzero : n ≠ 0) (low : -2 ^ 64 < n) (high : n < 2 ^ 64) :
    Stands (Float.ofInt n).toModel.unpack (signOf n) (standing n.natAbs) := by
  cases n with
  | ofNat n =>
    have pos : 0 < n := Nat.pos_of_ne_zero (by rintro rfl; exact nonzero rfl)
    have positive : 0 < Int.ofNat n := Int.ofNat_lt.2 pos
    rw [signOf, if_pos positive]
    exact stands_ofNat pos (Int.ofNat_lt.1 high)
  | negSucc n =>
    rw [signOf, if_neg (by omega)]
    exact stands_neg_ofNat (Nat.succ_pos n) (by omega)

theorem Stands.beq_iff {f g : Float} {s t : Sign} {p q : Nat × Int}
    (left : Stands f.toModel.unpack s p) (right : Stands g.toModel.unpack t q) :
    (f == g) = true ↔ s = t ∧ p = q := by
  obtain ⟨pPos, left⟩ := left
  obtain ⟨qPos, right⟩ := right
  rw [beq_iff_place, place, place, left, right]
  simp [placeOf, Prod.ext_iff]

end RecordSync.Number
