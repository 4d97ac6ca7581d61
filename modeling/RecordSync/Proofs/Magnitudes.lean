import Mathlib.Logic.Basic
import RecordSync.Document.Comparison

set_option autoImplicit false

namespace RecordSync.Number

open Float.Model

def placeOf : UnpackedFloat → Option UnpackedFloat
  | .notANumber => none
  | .zero _ => some (.zero .positive)
  | other => some other

def place (f : Float) : Option UnpackedFloat := placeOf f.toModel.unpack

theorem finite_beq_iff (s t : UnpackedFloat.Sign) (m n : Nat) (e f : Int) (p : 0 < m) (q : 0 < n) :
    (UnpackedFloat.finite s m e p).beq (.finite t n f q) = true ↔ s = t ∧ m = n ∧ e = f := by
  cases s with
  | positive =>
    cases t with
    | positive =>
      show (some ((compare e f).then (compare m n)) == some .eq) = true ↔ _
      simp [and_comm]
    | negative => exact iff_of_false (by rintro ⟨⟩) (by rintro ⟨⟨⟩, _⟩)
  | negative =>
    cases t with
    | positive => exact iff_of_false (by rintro ⟨⟩) (by rintro ⟨⟨⟩, _⟩)
    | negative =>
      show (some ((compare e f).then (compare m n)).swap == some .eq) = true ↔ _
      simp [and_comm]

theorem unpacked_beq_iff (u v : UnpackedFloat) :
    u.beq v = true ↔ placeOf u = placeOf v ∧ placeOf u ≠ none := by
  cases u with
  | notANumber => exact iff_of_false (by rintro ⟨⟩) fun places => places.2 rfl
  | infinity s =>
    cases v with
    | infinity t =>
      show (some (compare s t) == some .eq) = true ↔ some _ = some _ ∧ some _ ≠ none
      cases s <;> cases t <;> simp [compare]
    | _ => cases s <;> exact iff_of_false (by rintro ⟨⟩) (by rintro ⟨⟨⟩, _⟩)
  | zero s =>
    cases v with
    | zero t => exact iff_of_true rfl ⟨rfl, Option.some_ne_none _⟩
    | notANumber => exact iff_of_false (by rintro ⟨⟩) (by rintro ⟨⟨⟩, _⟩)
    | infinity t | finite t => cases t <;> exact iff_of_false (by rintro ⟨⟩) (by rintro ⟨⟨⟩, _⟩)
  | finite s m e p =>
    cases v with
    | infinity t => cases s <;> cases t <;> exact iff_of_false (by rintro ⟨⟩) (by rintro ⟨⟨⟩, _⟩)
    | finite t n f q =>
      show _ ↔ some _ = some _ ∧ some _ ≠ none
      rw [finite_beq_iff, and_iff_left (Option.some_ne_none _), Option.some.injEq,
        UnpackedFloat.finite.injEq]
    | _ => cases s <;> exact iff_of_false (by rintro ⟨⟩) (by rintro ⟨⟨⟩, _⟩)

theorem beq_iff_place (f g : Float) : (f == g) = true ↔ place f = place g ∧ place f ≠ none :=
  unpacked_beq_iff _ _

theorem placeOf_eq_none_iff (u : UnpackedFloat) : placeOf u = none ↔ u = .notANumber := by
  cases u with
  | notANumber => exact iff_of_true rfl rfl
  | _ => exact iff_of_false (Option.some_ne_none _) (by rintro ⟨⟩)

theorem place_ne_none_of_finite {f : Float} (finite : f.isFinite = true) : place f ≠ none := by
  unfold Float.isFinite Float.Model.isFinite at finite
  unfold place
  intro none
  rw [(placeOf_eq_none_iff _).1 none] at finite
  exact absurd finite (by decide)

theorem roundWithAccuracy_ne_notANumber (spec : Format) (sign : UnpackedFloat.Sign) (m : Nat)
    (e : Int) (accuracy : UnpackedFloat.Accuracy) :
    UnpackedFloat.roundWithAccuracy spec sign m e accuracy ≠ .notANumber := by
  unfold UnpackedFloat.roundWithAccuracy
  dsimp only
  rw [Ne, dite_eq_iff]
  rintro (⟨_, ⟨⟩⟩ | ⟨_, ⟨⟩⟩)

theorem unpack_pack_ne_notANumber (spec : Format) {u : UnpackedFloat} (number : u ≠ .notANumber) :
    UnpackedFloat.unpack spec (UnpackedFloat.pack spec u) ≠ .notANumber := by
  -- All ones in the exponent are kept for infinity; any other exponent is read as a number.
  have allOnes (s : UnpackedFloat.Sign) :
      UnpackedFloat.unpack spec (UnpackedFloat.packedInfinity spec s) ≠ .notANumber := by
    unfold UnpackedFloat.unpack UnpackedFloat.packedInfinity
    rw [if_pos (by simp), if_pos (by simp)]
    rintro ⟨⟩
  have other (s : UnpackedFloat.Sign) {e : BitVec spec.exponentBits}
      (m : BitVec spec.mantissaBitsWithoutImplicit) (below : e ≠ -1#_) :
      UnpackedFloat.unpack spec (UnpackedFloat.packComponents spec s e m) ≠ .notANumber := by
    unfold UnpackedFloat.unpack
    rw [UnpackedFloat.unpackExponent_packComponents, if_neg below, Ne, ite_eq_iff, dite_eq_iff]
    rintro (⟨_, ⟨_, ⟨⟩⟩ | ⟨_, ⟨⟩⟩⟩ | ⟨_, ⟨⟩⟩)
  have zero_ne : BitVec.ofNat spec.exponentBits 0 ≠ -BitVec.ofNat _ 1 := by
    simp [Nat.pos_iff_ne_zero.1 spec.he]
  cases u with
  | notANumber => exact absurd rfl number
  | infinity s => exact allOnes s
  | zero s => exact other s _ zero_ne
  | finite s m e pos =>
    unfold UnpackedFloat.pack
    dsimp only
    split
    · exact allOnes s
    · split
      · apply other
        rename_i small _
        generalize (e + spec.exponentBias + spec.mantissaBitsWithoutImplicit).toNat = biased
          at small ⊢
        have within : biased < 2 ^ spec.exponentBits - 1 := by omega
        have kept : biased % 2 ^ spec.exponentBits = biased := Nat.mod_eq_of_lt (by omega)
        simp only [BitVec.neg_one_eq_allOnes, ne_eq, ← BitVec.toNat_inj, BitVec.toNat_ofNat,
          BitVec.toNat_allOnes, kept]
        omega
      · exact other s _ zero_ne

theorem place_pack_ne_none {u : UnpackedFloat} (number : u ≠ .notANumber) :
    placeOf (Float.Model.pack u).unpack ≠ none := by
  rw [Ne, placeOf_eq_none_iff]
  exact unpack_pack_ne_notANumber Format.binary64 number

theorem ofScientific_ne_notANumber (spec : Format) (m : Nat) :
    UnpackedFloat.ofScientific spec m 0 ≠ .notANumber := by
  unfold UnpackedFloat.ofScientific
  rw [Ne, dite_eq_iff, not_or]
  constructor
  · rintro ⟨_, ⟨⟩⟩
  · rintro ⟨_, nan⟩
    rw [ite_eq_iff, ite_eq_iff, if_pos (Int.le_refl 0)] at nan
    obtain ⟨_, ⟨⟩⟩ | ⟨_, ⟨_, ⟨⟩⟩ | ⟨_, nan⟩⟩ := nan
    exact roundWithAccuracy_ne_notANumber _ _ _ _ _ nan

theorem place_ofInt_ne_none {n : Int} (large : 0x8000000000000000 ≤ n) :
    place (Float.ofInt n) ≠ none := by
  obtain ⟨m, rfl⟩ := Int.eq_ofNat_of_zero_le (a := n) (by omega)
  have slow : Float.ofInt m = Float.ofModel (Float.Model.ofScientific m 0) := by
    show Float.ofScientific m false 0 = _
    unfold Float.ofScientific
    rw [dif_neg (by omega)]
    rfl
  rw [slow]
  exact place_pack_ne_none (ofScientific_ne_notANumber Format.binary64 m)

theorem agrees_self (n : Number) : n.agrees n = true := by
  unfold agrees
  cases n with
  | int n range =>
    by_cases signed : n < 0x8000000000000000
    · simp [asInt64?, signed]
    · have large := place_ofInt_ne_none (Int.not_lt.1 signed)
      simpa [asInt64?, signed, asFloat] using (beq_iff_place _ _).2 ⟨rfl, large⟩
  | float f finite =>
    simpa [asInt64?, asFloat] using (beq_iff_place f f).2 ⟨rfl, place_ne_none_of_finite finite⟩

theorem agrees_int_iff {m n : Int} (mRange : -0x8000000000000000 ≤ m ∧ m < 0x10000000000000000)
    (nRange : -0x8000000000000000 ≤ n ∧ n < 0x10000000000000000)
    (mSigned : m < 0x8000000000000000) (nSigned : n < 0x8000000000000000) :
    (Number.int m mRange).agrees (.int n nRange) = true ↔ m = n := by
  simp [agrees, asInt64?, mSigned, nSigned]

theorem agrees_float_iff {f g : Float} (fFinite : f.isFinite = true) (gFinite : g.isFinite = true) :
    (Number.float f fFinite).agrees (.float g gFinite) = true ↔ place f = place g := by
  have number := place_ne_none_of_finite fFinite
  simpa [agrees, asInt64?, asFloat, number] using beq_iff_place f g

theorem agrees_congr_of_place {f g : Float} (fFinite : f.isFinite = true)
    (gFinite : g.isFinite = true) (same : place f = place g) (n : Number) :
    (Number.float f fFinite).agrees n = (Number.float g gFinite).agrees n := by
  rw [Bool.eq_iff_iff]
  simp only [agrees, asInt64?, asFloat, beq_iff_place, same]

end RecordSync.Number
