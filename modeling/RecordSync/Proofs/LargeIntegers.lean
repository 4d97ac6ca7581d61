import RecordSync.Proofs.Convergence
import RecordSync.Proofs.Rounding
import RecordSync.Proofs.Symmetry

set_option autoImplicit false

namespace RecordSync

namespace Number

section Standing

variable {n : Nat}

theorem standing_of_wide (wide : 52 ≤ n.log2) :
    standing n = carry (nearest n (2 ^ (n.log2 - 52))) (n.log2 - 52) := by
  have split : 2 ^ (n.log2 + 1) = 2 ^ (n.log2 - 52) * 2 ^ 53 := by
    rw [← Nat.pow_add]
    congr 1
    omega
  rw [standing, split, nearest_mul _ _ (Nat.two_pow_pos 53)]

theorem standing_high (low : 0x7FFFFFFFFFFFFE00 ≤ n) (high : n < 2 ^ 64) :
    standing n = carry (nearest n 2048) 11 := by
  rcases Nat.lt_or_ge n (2 ^ 63) with below | above
  · have width : n.log2 = 62 := (Nat.log2_eq_iff (by omega)).2 ⟨by omega, below⟩
    have finer : nearest n (2 ^ 10) = 2 ^ 53 := by grind [nearest]
    have coarser : nearest n 2048 = 2 ^ 52 := by grind [nearest]
    rw [standing_of_wide (by omega), width, finer, coarser]
    rfl
  · have width : n.log2 = 63 := (Nat.log2_eq_iff (by omega)).2 ⟨above, high⟩
    rw [standing_of_wide (by omega), width]
    rfl

theorem standing_low (pos : 0 < n) (below : n < 0x7FFFFFFFFFFFFE00) : (standing n).2 ≤ 10 := by
  have width : n.log2 < 63 := (Nat.log2_lt (Nat.ne_of_gt pos)).2 (by omega)
  rcases Nat.lt_or_eq_of_le (Nat.le_of_lt_succ width) with less | same
  · unfold standing carry
    split <;> simp <;> omega
  · have rounded : nearest n (2 ^ 10) < 2 ^ 53 := by grind [nearest]
    rw [standing_of_wide (by omega), same, carry, if_pos rounded]
    exact Int.le_refl 10

theorem nearest_range (low : 0x7FFFFFFFFFFFFE00 ≤ n) (high : n < 2 ^ 64) :
    2 ^ 52 ≤ nearest n 2048 ∧ nearest n 2048 ≤ 2 ^ 53 := by
  grind [nearest]

theorem carry_inj {r q : Nat} {e : Int} (rMost : r ≤ 2 ^ 53) (qMost : q ≤ 2 ^ 53) :
    carry r e = carry q e ↔ r = q := by
  grind [carry]

end Standing

-- Whole numbers that agree though they may differ: one is beyond the signed range, the other is not
-- far below it, and both are nearest to the same multiple of 2048.
def Collide (m n : Int) : Prop :=
  0x8000000000000000 ≤ max m n ∧ 0x7FFFFFFFFFFFFE00 ≤ min m n ∧
    nearest m.toNat 2048 = nearest n.toNat 2048

instance (m n : Int) : Decidable (Collide m n) :=
  inferInstanceAs (Decidable (_ ∧ _ ∧ _))

section Large

variable {m n : Int}

theorem standing_eq_iff {m n : Nat} (large : 2 ^ 63 ≤ m) (mHigh : m < 2 ^ 64) (pos : 0 < n)
    (nHigh : n < 2 ^ 64) :
    standing m = standing n ↔ 0x7FFFFFFFFFFFFE00 ≤ n ∧ nearest m 2048 = nearest n 2048 := by
  obtain ⟨mLow, mMost⟩ := nearest_range (by omega) mHigh
  rw [standing_high (by omega) mHigh]
  rcases Nat.lt_or_ge n 0x7FFFFFFFFFFFFE00 with below | near
  · -- The floats of smaller numbers have smaller exponents.
    have lower := standing_low pos below
    have higher := (carry_bounds 11 mLow).2.2.1
    refine iff_of_false (fun same => ?_) (by omega)
    rw [same] at higher
    omega
  · obtain ⟨_, nMost⟩ := nearest_range near nHigh
    rw [standing_high near nHigh, carry_inj mMost nMost, and_iff_right near]

theorem ofInt_ne_zero (nonzero : m ≠ 0) (low : -2 ^ 64 < m) (high : m < 2 ^ 64) :
    (Float.ofInt m == Float.ofInt 0) = false := by
  obtain ⟨_, stands⟩ := stands_ofInt nonzero low high
  have zero : place (Float.ofInt 0) = some (.zero .positive) := rfl
  rw [Bool.eq_false_iff, Ne, beq_iff_place, zero, place, stands]
  rintro ⟨⟨⟩, _⟩

theorem ofInt_beq_iff (large : 0x8000000000000000 ≤ m) (mHigh : m < 2 ^ 64) (nLow : -2 ^ 64 < n)
    (nHigh : n < 2 ^ 64) :
    (Float.ofInt m == Float.ofInt n) = true ↔
      0x7FFFFFFFFFFFFE00 ≤ n ∧ nearest m.toNat 2048 = nearest n.toNat 2048 := by
  have mStands := stands_ofInt (n := m) (by omega) (by omega) mHigh
  have mSign : signOf m = .positive := if_pos (by omega)
  rcases Int.lt_trichotomy n 0 with negative | rfl | positive
  · have nSign : signOf n = .negative := if_neg (by omega)
    rw [mStands.beq_iff (stands_ofInt (by omega) nLow nHigh), mSign, nSign]
    exact iff_of_false (by rintro ⟨⟨⟩, _⟩) (by omega)
  · simp [ofInt_ne_zero (m := m) (by omega) (by omega) mHigh]
  · have nSign : signOf n = .positive := if_pos positive
    obtain ⟨m, rfl⟩ := Int.eq_ofNat_of_zero_le (a := m) (by omega)
    obtain ⟨n, rfl⟩ := Int.eq_ofNat_of_zero_le (a := n) (by omega)
    rw [mStands.beq_iff (stands_ofInt (by omega) nLow nHigh), mSign, nSign, Int.natAbs_natCast,
      Int.natAbs_natCast, standing_eq_iff (by omega) (by omega) (by omega) (by omega)]
    simp only [Int.toNat_natCast, true_and]
    omega

theorem Collide.comm : Collide m n ↔ Collide n m := by
  rw [Collide, Collide, Int.max_comm, Int.min_comm, eq_comm (a := nearest m.toNat 2048)]

theorem agrees_large_iff (mRange : -0x8000000000000000 ≤ m ∧ m < 0x10000000000000000)
    (nRange : -0x8000000000000000 ≤ n ∧ n < 0x10000000000000000) (large : 0x8000000000000000 ≤ m) :
    (Number.int m mRange).agrees (.int n nRange) = true ↔ m = n ∨ Collide m n := by
  have floats : (Number.int m mRange).agrees (.int n nRange) =
      (Float.ofInt m == Float.ofInt n) := by
    simp [agrees, asInt64?, asFloat, Int.not_lt.2 large]
  rw [floats, ofInt_beq_iff large mRange.2 (by omega) nRange.2, Collide]
  constructor
  · rintro ⟨near, same⟩
    exact Or.inr ⟨by omega, by omega, same⟩
  · rintro (rfl | ⟨_, near, same⟩)
    · exact ⟨by omega, rfl⟩
    · exact ⟨by omega, same⟩

theorem agrees_whole_iff (mRange : -0x8000000000000000 ≤ m ∧ m < 0x10000000000000000)
    (nRange : -0x8000000000000000 ≤ n ∧ n < 0x10000000000000000) :
    (Number.int m mRange).agrees (.int n nRange) = true ↔ m = n ∨ Collide m n := by
  rcases Int.lt_or_le m 0x8000000000000000 with mSigned | mLarge
  · rcases Int.lt_or_le n 0x8000000000000000 with nSigned | nLarge
    · rw [agrees_int_iff mRange nRange mSigned nSigned, or_iff_left]
      rintro ⟨large, _⟩
      omega
    · rw [agrees_symm, agrees_large_iff nRange mRange nLarge, eq_comm, Collide.comm]
  · exact agrees_large_iff mRange nRange mLarge

end Large

end Number

theorem Value.agrees_number (x y : Number) :
    (Value.number x).agrees (.number y) = x.agrees y := by
  rw [agrees]

theorem Mapper.change?_number {ensure : Ensure} (compares : ensure = .latest ∨ ensure = .merge)
    (x y : Number) :
    change? ensure (some (.number x)) (some (.number y)) = none ↔ x.agrees y = true := by
  rcases compares with rfl | rfl
  · cases same : x.agrees y <;> simp [change?, Value.agrees_number, same]
  · have there : (Value.number x).containedIn [.number y] = x.agrees y := by
      rw [Value.containedIn, List.any_cons, List.any_nil, Bool.or_false, Value.agrees_number,
        Number.agrees_symm]
    cases same : x.agrees y <;> simp [change?, Value.elements, there, same]

theorem Filter.accepts_number {path : String} {r : Record} {y : Number}
    (found : Path.getIn r path = some (.number y)) (x : Number) :
    (Filter.equals path (.number x)).accepts r = x.agrees y := by
  simp only [accepts, found, meets, Value.agrees_number, Number.agrees_symm y x]

theorem Record.agrees_insert_iff {r : Record} (keyed : WellKeyed r) (name : String) (a b : Value) :
    Record.agrees (Keyed.insert name a r) (Keyed.insert name b r) = true ↔ a.agrees b = true := by
  rw [Record.agrees, Keyed.length_insert_eq name a b, BEq.rfl, Bool.true_and,
    Value.agreesFields_iff]
  constructor
  · intro each
    obtain ⟨y, there, agree⟩ := each (name, a) (Keyed.mem_of_get? (Keyed.get?_insert_self name a r))
    rw [Keyed.get?_insert_self] at there
    cases there
    exact agree
  · rintro agree ⟨key, value⟩ member
    have found := Keyed.get?_of_mem (keyed.distinct.insert name a) member
    rw [Keyed.get?_insert] at found ⊢
    by_cases same : key = name
    · simp only [same, if_true, Option.some.injEq] at found ⊢
      exact ⟨b, rfl, found ▸ agree⟩
    · simp only [same, if_false] at found ⊢
      exact ⟨value, found, Value.agrees_self (keyed.get? found)⟩

-- Whole numbers are taken as the same just when they are, or when they collide: by a difference, by
-- a condition on a record, and where an import asks whether anything has changed.
theorem whole_numbers_taken_as_same_iff {m n : Int}
    (mRange : -0x8000000000000000 ≤ m ∧ m < 0x10000000000000000)
    (nRange : -0x8000000000000000 ≤ n ∧ n < 0x10000000000000000) :
    ((Value.number (.int m mRange)).agrees (.number (.int n nRange)) = true ↔
        m = n ∨ Number.Collide m n) ∧
      (∀ (mapper : Mapper) (mapped existing : Record), ∀ d ∈ mapper.definitions,
        d.ensure = .latest ∨ d.ensure = .merge →
        Keyed.get? d.name mapped = some (.number (.int m mRange)) →
        Keyed.get? d.name existing = some (.number (.int n nRange)) →
        (Keyed.get? d.name (mapper.diff mapped existing) = none ↔ m = n ∨ Number.Collide m n)) ∧
      (∀ path r, Path.getIn r path = some (.number (.int n nRange)) →
        ((Filter.equals path (.number (.int m mRange))).accepts r = true ↔
          m = n ∨ Number.Collide m n)) ∧
      ∀ name r, Record.WellKeyed r →
        (Record.agrees (Keyed.insert name (.number (.int m mRange)) r)
            (Keyed.insert name (.number (.int n nRange)) r) = true ↔
          m = n ∨ Number.Collide m n) := by
  have agree := Number.agrees_whole_iff mRange nRange
  refine ⟨?_, fun mapper mapped existing d member compares wanted there => ?_,
    fun path r found => ?_, fun name r keyed => ?_⟩
  · rw [Value.agrees_number, agree]
  · have kept : Mapper.wanted? mapped d.name = some (.number (.int m mRange)) := by
      simp [Mapper.wanted?, wanted, Value.isEmpty]
    rw [Mapper.get?_diff member, Mapper.changeOf, kept, there, Mapper.change?_number compares,
      agree]
  · rw [Filter.accepts_number found, agree]
  · rw [Record.agrees_insert_iff keyed, Value.agrees_number, agree]

theorem whole_numbers_taken_as_same_at_edge :
    let a := Value.number (.int 0x8000000000000000 (by decide))
    let b := Value.number (.int 0x7FFFFFFFFFFFFFFF (by decide))
    let mapper : Mapper := ⟨[⟨"uid", [], .int, .latest, true, [], none, none, none⟩], by decide⟩
    a.agrees b = true ∧
      Keyed.get? "uid" (mapper.diff [("uid", a)] [("uid", b)]) = none ∧
      (Filter.equals "uid" a).accepts [("uid", b)] = true ∧
      Record.agrees [("uid", a)] [("uid", b)] = true := by
  intro a b mapper
  have collide : Number.Collide 0x8000000000000000 0x7FFFFFFFFFFFFFFF := by decide
  obtain ⟨agree, difference, condition, data⟩ := whole_numbers_taken_as_same_iff
    (m := 0x8000000000000000) (n := 0x7FFFFFFFFFFFFFFF) (by decide) (by decide)
  refine ⟨agree.2 (Or.inr collide), ?_, (condition "uid" _ (by cbv)).2 (Or.inr collide),
    (data "uid" [] (by simp [Record.wellKeyed_iff])).2 (Or.inr collide)⟩
  have kept := difference mapper [("uid", a)] [("uid", b)] _ (List.mem_singleton_self _)
    (Or.inl rfl) rfl rfl
  exact kept.2 (Or.inr collide)

-- The two greatest numbers differ and agree, in either order.
theorem greatest_numbers_taken_as_same :
    let a := Value.number (.int 0xFFFFFFFFFFFFFFFF (by decide))
    let b := Value.number (.int 0xFFFFFFFFFFFFFFFE (by decide))
    a ≠ b ∧ a.agrees b = true ∧ b.agrees a = true := by
  decide +kernel

end RecordSync
