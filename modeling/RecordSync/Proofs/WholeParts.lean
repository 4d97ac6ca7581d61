import RecordSync.Attribute.Coercion
import RecordSync.Proofs.Rounding

set_option autoImplicit false

namespace RecordSync

def held (n : Int) : Int := max (-0x8000000000000000) (min n 0x7FFFFFFFFFFFFFFF)

theorem held_range (n : Int) : -0x8000000000000000 ≤ held n ∧ held n < 0x8000000000000000 := by
  unfold held
  omega

theorem held_eq_self_iff (n : Int) :
    held n = n ↔ -0x8000000000000000 ≤ n ∧ n < 0x8000000000000000 := by
  unfold held
  omega

theorem held_of_above {n : Int} (above : 0x7FFFFFFFFFFFFFFF ≤ n) : held n = 0x7FFFFFFFFFFFFFFF := by
  unfold held
  omega

theorem held_of_below {n : Int} (below : n ≤ -0x8000000000000000) :
    held n = -0x8000000000000000 := by
  unfold held
  omega

namespace Number

open Float.Model Float.Model.UnpackedFloat

def Far (u : UnpackedFloat) (s : Sign) : Prop :=
  u = .infinity s ∨ ∃ parts, Stands u s parts ∧ 2 ^ 52 ≤ parts.1 ∧ parts.1 < 2 ^ 53 ∧ 11 ≤ parts.2

section Packing

variable {s : Sign} {u : UnpackedFloat} {parts : Nat × Int}

theorem unpack_infinity (s : Sign) : (Float.Model.pack (.infinity s)).unpack = .infinity s := by
  cases s <;> rfl

theorem unpack_pack_of_overflow (stands : Stands u s parts) (beyond : 971 < parts.2) :
    (Float.Model.pack u).unpack = .infinity s := by
  obtain ⟨pos, rfl⟩ := stands
  have room : 2 ^ Format.binary64.exponentBits ≤ (parts.2 + Format.binary64.exponentBias +
      Format.binary64.mantissaBitsWithoutImplicit).toNat + 1 := by
    show 2048 ≤ (parts.2 + 1023 + 52).toNat + 1
    omega
  have overflow : UnpackedFloat.pack .binary64 (.finite s parts.1 parts.2 pos) =
      UnpackedFloat.pack .binary64 (.infinity s) := by
    unfold UnpackedFloat.pack
    dsimp only
    rw [if_pos room]
  rw [← unpack_infinity s]
  show UnpackedFloat.unpack .binary64 (UnpackedFloat.pack .binary64 _) = _
  rw [overflow]
  rfl

theorem Far.unpack_pack (far : Far u s) : Far (Float.Model.pack u).unpack s := by
  obtain rfl | ⟨parts, stands, low, high, least⟩ := far
  · exact Or.inl (unpack_infinity s)
  · rcases Int.lt_or_le 971 parts.2 with beyond | most
    · exact Or.inl (unpack_pack_of_overflow stands beyond)
    · exact Or.inr ⟨parts, stands.unpack_pack ⟨low, high, by omega, most⟩, low, high, least⟩

theorem Far.neg {f : Float} (far : Far f.toModel.unpack .positive) :
    Far (-f).toModel.unpack .negative := by
  have turned : Far f.toModel.unpack.neg .negative := by
    obtain infinite | ⟨parts, ⟨pos, finite⟩, bounds⟩ := far
    · exact Or.inl (by rw [infinite]; rfl)
    · exact Or.inr ⟨parts, ⟨pos, by rw [finite]; rfl⟩, bounds⟩
  exact turned.unpack_pack

end Packing

section WholePart

variable {s : Sign} {f : Float} {n : Nat}

theorem toInt_ofIntClamp (n : Int) : (Int64.ofIntClamp n).toInt = held n := by
  have low : Int64.minValue.toInt = -0x8000000000000000 := rfl
  have high : Int64.maxValue.toInt = 0x7FFFFFFFFFFFFFFF := rfl
  unfold Int64.ofIntClamp
  split
  · split
    · rw [Int64.toInt_ofIntLE, (held_eq_self_iff n).2 (by omega)]
    · rw [high, held_of_above (by omega)]
  · rw [low, held_of_below (by omega)]

theorem wholePart_eq (f : Float) : Coercion.wholePart f =
    held (f.toModel.unpack.toInt Int64.minValue.toInt Int64.maxValue.toInt) :=
  toInt_ofIntClamp _

theorem roundToInt_of_whole (s : Sign) (m : Nat) {e : Int} (whole : 0 ≤ e) :
    roundToInt s m e = s.apply (m * 2 ^ e.toNat : Nat) := by
  have amount : (e - 0).toNat = e.toNat := by rw [Int.sub_zero]
  have rest : ((0 : Int) - (e - e.toNat)).toNat = 0 := by omega
  simp only [roundToInt, decreaseExponent, shiftToExponent, amount, rest, Nat.shiftLeft_eq]
  rfl

theorem Far.wholePart (far : Far f.toModel.unpack s) :
    Coercion.wholePart f = held (s.apply 0x8000000000000000) := by
  rw [wholePart_eq]
  obtain infinite | ⟨⟨m, e⟩, ⟨pos, finite⟩, low, _, least⟩ := far
  · rw [infinite]
    cases s <;> rfl
  · have large : 2 ^ 52 * 2 ^ 11 ≤ m * 2 ^ e.toNat :=
      Nat.mul_le_mul low (Nat.pow_le_pow_right (by decide) (by omega))
    rw [finite]
    show held (roundToInt s m e) = _
    rw [roundToInt_of_whole s m (by omega)]
    cases s with
    | positive => exact (held_of_above (by simp only [Sign.apply]; omega)).trans rfl
    | negative => exact (held_of_below (by simp only [Sign.apply]; omega)).trans rfl

theorem far_ofNat (large : 2 ^ 63 ≤ n) : Far (Float.ofNat n).toModel.unpack .positive := by
  have width : 63 ≤ n.log2 := (Nat.le_log2 (by omega)).2 large
  obtain ⟨low, high, least, _⟩ := standing_bounds (n := n) (by omega)
  have far : Far (UnpackedFloat.ofScientific .binary64 n 0) .positive :=
    Or.inr ⟨_, stands_ofScientific (by omega), low, high, by omega⟩
  rw [ofNat_of_large (by omega)]
  exact far.unpack_pack

theorem far_nearest (large : 2 ^ 63 ≤ n) :
    Far (Numeral.nearest n 0).toModel.unpack .positive := by
  unfold Numeral.nearest
  dsimp only
  split
  · omega
  · split
    · exact Or.inl rfl
    · exact far_ofNat large

end WholePart

end Number

end RecordSync
