import RecordSync.Document.Printer
import RecordSync.Document.Reader

set_option autoImplicit false

namespace RecordSync

namespace Document

-- A numeral in front of this text ends where the text begins.
def EndsNumeral (rest : List Char) : Prop :=
  ∀ c tail, rest = c :: tail → Numeral.isDigit c = false ∧ c ≠ '.' ∧ c ≠ 'e' ∧ c ≠ 'E'

def exponentDigits (negative : Bool) (cs : List Char) : Option (Int × List Char) :=
  if (cs.takeWhile Numeral.isDigit).isEmpty then none
  else
    let n := min (Numeral.digitsValue (cs.takeWhile Numeral.isDigit)) 2147483647
    some (if negative then -Int.ofNat n else Int.ofNat n, cs.dropWhile Numeral.isDigit)

theorem readExponent_cons (c : Char) (cs : List Char) :
    readExponent (c :: cs) =
      if c = '+' then exponentDigits false cs
      else if c = '-' then exponentDigits true cs
      else exponentDigits false (c :: cs) := by
  unfold readExponent
  dsimp only
  split
  · rename_i same
    obtain ⟨rfl, rfl⟩ := List.cons_eq_cons.1 same
    rfl
  · rename_i same
    obtain ⟨rfl, rfl⟩ := List.cons_eq_cons.1 same
    rfl
  · rename_i plus minus
    rw [if_neg fun same => plus cs (congrArg (· :: cs) same),
      if_neg fun same => minus cs (congrArg (· :: cs) same)]
    rfl

def readScaled (negative : Bool) (m : Nat) (e : Int) (plain : Option Number) (cs : List Char) :
    Option (Number × List Char) :=
  match cs with
  | c :: rest =>
    if c = 'e' || c = 'E' then do
      let (x, rest) ← readExponent rest
      return (← floatOf? negative m (e + x), rest)
    else do return (← plain, cs)
  | [] => do return (← plain, cs)

theorem readTail_point (negative : Bool) (m : Nat) (e : Int) (exact : Bool) (cs : List Char) :
    readTail negative m e exact ('.' :: cs) =
      if (cs.takeWhile Numeral.isDigit).isEmpty then none
      else
        let read := significand m 0 cs
        let e := e - Int.ofNat read.2.1
        readScaled negative read.1 e (floatOf? negative read.1 e)
          (read.2.2.dropWhile Numeral.isDigit) := by
  rw [readTail]
  split
  · rfl
  · dsimp only
    cases (significand m 0 cs).2.2.dropWhile Numeral.isDigit <;> rfl

def wholeNumber? (negative : Bool) (m : Nat) (e : Int) (exact : Bool) : Option Number :=
  if !exact then floatOf? negative m e
  else if negative then
    if m = 0 || 0x8000000000000000 < m then floatOf? true m 0 else Number.ofInt? (-Int.ofNat m)
  else Number.ofInt? (Int.ofNat m)

theorem whole_eq (negative : Bool) (m : Nat) (e : Int) (exact : Bool) (rest : List Char) :
    readTail.whole negative m e exact rest =
      (do return (← wholeNumber? negative m e exact, rest)) := by
  unfold readTail.whole wholeNumber?
  split
  · rfl
  · split
    · split <;> rfl
    · rfl

theorem readTail_eq {cs : List Char} (pointless : ∀ digits, cs ≠ '.' :: digits)
    (negative : Bool) (m : Nat) (e : Int) (exact : Bool) :
    readTail negative m e exact cs =
      readScaled negative m e (wholeNumber? negative m e exact) cs := by
  unfold readTail
  split
  · exact absurd rfl (pointless _)
  · unfold readScaled
    cases cs with
    | nil => exact whole_eq negative m e exact []
    | cons c rest =>
      dsimp only
      split
      · rfl
      · exact whole_eq negative m e exact (c :: rest)

theorem readUnsigned_zero (negative : Bool) (cs : List Char) :
    readUnsigned negative ('0' :: cs) =
      if (cs.takeWhile Numeral.isDigit).isEmpty then readTail negative 0 0 true cs else none := by
  cases cs with
  | nil => rfl
  | cons c cs => cases digit : Numeral.isDigit c <;> simp [readUnsigned, digit]

theorem readUnsigned_of_ne {c : Char} (nonzero : c ≠ '0') (negative : Bool) (cs : List Char) :
    readUnsigned negative (c :: cs) =
      if Numeral.isDigit c then
        let read := significand 0 0 (c :: cs)
        let dropped := read.2.2.takeWhile Numeral.isDigit
        readTail negative read.1 (Int.ofNat dropped.length) dropped.isEmpty
          (read.2.2.dropWhile Numeral.isDigit)
      else none := by
  unfold readUnsigned
  split
  · exact absurd (List.cons_eq_cons.1 ‹_›).1 nonzero
  · rfl

theorem readNumber_of_ne {c : Char} (unsigned : c ≠ '-') (cs : List Char) :
    readNumber (c :: cs) = readUnsigned false (c :: cs) := by
  unfold readNumber
  split
  · exact absurd (List.cons_eq_cons.1 ‹_›).1 unsigned
  · rfl

theorem head_of_readNumber {cs : List Char} {read : Number × List Char}
    (found : readNumber cs = some read) :
    ∃ c tail, cs = c :: tail ∧ (c = '-' ∨ Numeral.isDigit c = true) := by
  cases cs with
  | nil => cases found
  | cons c cs =>
    refine ⟨c, cs, rfl, ?_⟩
    by_cases minus : c = '-'
    · exact Or.inl minus
    · by_cases zero : c = '0'
      · exact Or.inr (zero ▸ by decide)
      · rw [readNumber_of_ne minus, readUnsigned_of_ne zero] at found
        by_cases digit : Numeral.isDigit c = true
        · exact Or.inr digit
        · rw [if_neg digit] at found
          cases found

section Numerals

variable {rest : List Char} (ends : EndsNumeral rest)

include ends

theorem EndsNumeral.takeWhile_append (cs : List Char) :
    (cs ++ rest).takeWhile Numeral.isDigit = cs.takeWhile Numeral.isDigit := by
  induction cs with
  | nil =>
    cases rest with
    | nil => rfl
    | cons c tail => simp [(ends c tail rfl).1]
  | cons c cs ih => simp [List.takeWhile_cons, ih]

theorem EndsNumeral.dropWhile_append (cs : List Char) :
    (cs ++ rest).dropWhile Numeral.isDigit = cs.dropWhile Numeral.isDigit ++ rest := by
  induction cs with
  | nil =>
    cases rest with
    | nil => rfl
    | cons c tail => simp [(ends c tail rfl).1]
  | cons c cs ih => cases digit : Numeral.isDigit c <;> simp [digit, ih]

theorem EndsNumeral.significand_append (acc taken : Nat) (cs : List Char) :
    significand acc taken (cs ++ rest) =
      ((significand acc taken cs).1, (significand acc taken cs).2.1,
        (significand acc taken cs).2.2 ++ rest) := by
  induction cs generalizing acc taken with
  | nil =>
    cases rest with
    | nil => rfl
    | cons c tail =>
      have none : Numeral.digit? c = none := by simpa [Numeral.isDigit] using (ends c tail rfl).1
      simp [significand, none]
  | cons c cs ih =>
    cases digit : Numeral.digit? c with
    | none => simp [significand, digit]
    | some d =>
      by_cases fits : acc * 10 + d ≤ Numeral.wordBound <;> simp [significand, digit, fits, ih]

theorem EndsNumeral.exponentDigits_append {negative : Bool} {cs : List Char} {x : Int}
    (read : exponentDigits negative cs = some (x, [])) :
    exponentDigits negative (cs ++ rest) = some (x, rest) := by
  unfold exponentDigits at read ⊢
  rw [ends.takeWhile_append, ends.dropWhile_append]
  by_cases digits : (cs.takeWhile Numeral.isDigit).isEmpty = true
  · rw [if_pos digits] at read
    cases read
  · rw [if_neg digits] at read ⊢
    simp only [Option.some.injEq, Prod.mk.injEq] at read ⊢
    exact ⟨read.1, by rw [read.2, List.nil_append]⟩

theorem EndsNumeral.readExponent_append {cs : List Char} {x : Int}
    (read : readExponent cs = some (x, [])) : readExponent (cs ++ rest) = some (x, rest) := by
  cases cs with
  | nil => cases read
  | cons c cs =>
    rw [readExponent_cons] at read
    rw [List.cons_append, readExponent_cons]
    by_cases plus : c = '+'
    · rw [if_pos plus] at read ⊢
      exact ends.exponentDigits_append read
    · rw [if_neg plus] at read ⊢
      by_cases minus : c = '-'
      · rw [if_pos minus] at read ⊢
        exact ends.exponentDigits_append read
      · rw [if_neg minus] at read ⊢
        exact ends.exponentDigits_append read

theorem EndsNumeral.readScaled_append {negative : Bool} {m : Nat} {e : Int}
    {plain : Option Number} {cs : List Char} {n : Number}
    (read : readScaled negative m e plain cs = some (n, [])) :
    readScaled negative m e plain (cs ++ rest) = some (n, rest) := by
  cases cs with
  | nil =>
    obtain ⟨_, found, same⟩ := Option.bind_eq_some_iff.1 read
    cases same
    cases rest with
    | nil => simp [readScaled, found]
    | cons c tail =>
      obtain ⟨_, _, small, capital⟩ := ends c tail rfl
      simp [readScaled, found, small, capital]
  | cons c cs =>
    simp only [readScaled, List.cons_append] at read ⊢
    by_cases mark : (c = 'e' || c = 'E') = true
    · rw [if_pos mark] at read ⊢
      obtain ⟨⟨x, left⟩, exponent, scaled⟩ := Option.bind_eq_some_iff.1 read
      obtain ⟨_, found, same⟩ := Option.bind_eq_some_iff.1 scaled
      cases same
      simp [ends.readExponent_append exponent, found]
    · rw [if_neg mark] at read
      obtain ⟨_, _, same⟩ := Option.bind_eq_some_iff.1 read
      cases same

theorem EndsNumeral.readTail_append {negative exact : Bool} {m : Nat} {e : Int} {cs : List Char}
    {n : Number} (read : readTail negative m e exact cs = some (n, [])) :
    readTail negative m e exact (cs ++ rest) = some (n, rest) := by
  -- Nothing that ends a numeral starts with a point, so there is one in both texts or in neither.
  by_cases point : ∃ digits, cs = '.' :: digits
  · obtain ⟨digits, rfl⟩ := point
    rw [readTail_point] at read
    rw [List.cons_append, readTail_point, ends.takeWhile_append]
    by_cases fraction : (digits.takeWhile Numeral.isDigit).isEmpty = true
    · rw [if_pos fraction] at read
      cases read
    · rw [if_neg fraction] at read ⊢
      dsimp only at read ⊢
      rw [ends.significand_append]
      dsimp only
      rw [ends.dropWhile_append]
      exact ends.readScaled_append read
  · have pointless : ∀ digits, cs ++ rest ≠ '.' :: digits := by
      intro digits same
      cases cs with
      | nil => exact (ends '.' digits same).2.1 rfl
      | cons c cs =>
        obtain ⟨rfl, _⟩ := List.cons_eq_cons.1 same
        exact point ⟨cs, rfl⟩
    rw [readTail_eq fun digits same => point ⟨digits, same⟩] at read
    rw [readTail_eq pointless, ends.readScaled_append read]

theorem EndsNumeral.readUnsigned_append {negative : Bool} {cs : List Char} {n : Number}
    (read : readUnsigned negative cs = some (n, [])) :
    readUnsigned negative (cs ++ rest) = some (n, rest) := by
  cases cs with
  | nil => cases read
  | cons c cs =>
    by_cases zero : c = '0'
    · subst zero
      rw [readUnsigned_zero] at read
      rw [List.cons_append, readUnsigned_zero, ends.takeWhile_append]
      by_cases more : (cs.takeWhile Numeral.isDigit).isEmpty = true
      · rw [if_pos more] at read ⊢
        exact ends.readTail_append read
      · rw [if_neg more] at read
        cases read
    · rw [readUnsigned_of_ne zero] at read
      rw [List.cons_append, readUnsigned_of_ne zero]
      by_cases digit : Numeral.isDigit c = true
      · rw [if_pos digit] at read ⊢
        dsimp only at read ⊢
        rw [← List.cons_append, ends.significand_append]
        dsimp only
        rw [ends.takeWhile_append, ends.dropWhile_append]
        exact ends.readTail_append read
      · rw [if_neg digit] at read
        cases read

theorem EndsNumeral.readNumber_append {cs : List Char} {n : Number}
    (read : readNumber cs = some (n, [])) : readNumber (cs ++ rest) = some (n, rest) := by
  cases cs with
  | nil => cases read
  | cons c cs =>
    by_cases minus : c = '-'
    · subst minus
      show readUnsigned true (cs ++ rest) = _
      exact ends.readUnsigned_append read
    · rw [readNumber_of_ne minus] at read
      rw [List.cons_append, readNumber_of_ne minus]
      exact ends.readUnsigned_append read

end Numerals

theorem digit?_of_isDigit {c : Char} (digit : c.isDigit = true) :
    Numeral.digit? c = some (c.toNat - '0'.toNat) := by
  simp only [Char.isDigit, Bool.and_eq_true, decide_eq_true_eq] at digit
  exact if_pos digit

theorem significand_digits {ds : List Char} (digits : ∀ c ∈ ds, c.isDigit = true) {acc : Nat}
    (fits : Nat.ofDigitChars 10 ds acc ≤ Numeral.wordBound) (taken : Nat) :
    significand acc taken ds = (Nat.ofDigitChars 10 ds acc, taken + ds.length, []) := by
  induction ds generalizing acc taken with
  | nil => rfl
  | cons c ds ih =>
    obtain ⟨first, later⟩ := List.forall_mem_cons.1 digits
    rw [Nat.ofDigitChars_cons, Nat.mul_comm] at fits ⊢
    have grows := @Nat.ofDigitChars_eq_ofDigitChars_zero ds (acc * 10 + (c.toNat - '0'.toNat))
    have scaled := Nat.le_mul_of_pos_left (acc * 10 + (c.toNat - '0'.toNat))
      (Nat.pow_pos (n := ds.length) (show 0 < 10 by decide))
    have below : acc * 10 + (c.toNat - '0'.toNat) ≤ Numeral.wordBound := by omega
    simp only [significand, digit?_of_isDigit first, if_pos below, ih later fits, List.length_cons]
    congr 2
    omega

theorem digitChar_ne_zero : ∀ n < 10, 0 < n → n.digitChar ≠ '0' := by decide

theorem head_toDigits {n : Nat} (pos : 0 < n) :
    ∃ c ds, Nat.toDigits 10 n = c :: ds ∧ c ≠ '0' := by
  induction n using Nat.strongRecOn with
  | ind n ih =>
    by_cases small : n < 10
    · exact ⟨n.digitChar, [], Nat.toDigits_of_lt_base small, digitChar_ne_zero n small pos⟩
    · obtain ⟨c, ds, front, nonzero⟩ := ih (n / 10) (by omega) (by omega)
      refine ⟨c, ds ++ [(n % 10).digitChar], ?_, nonzero⟩
      rw [Nat.toDigits_of_base_le (by decide) (by omega), front, List.cons_append]

theorem readUnsigned_toDigits (negative : Bool) {n : Nat} (fits : n ≤ Numeral.wordBound) :
    readUnsigned negative (Nat.toDigits 10 n) = do
      return (← wholeNumber? negative n 0 true, []) := by
  have pointless : ∀ digits, ([] : List Char) ≠ '.' :: digits := fun _ => by simp
  obtain rfl | pos := Nat.eq_zero_or_pos n
  · rw [Nat.toDigits_zero, readUnsigned_zero]
    exact readTail_eq pointless negative 0 0 true
  · have digits : ∀ c ∈ Nat.toDigits 10 n, c.isDigit = true := fun c =>
      Nat.isDigit_of_mem_toDigits (by decide) (by decide)
    have value : Nat.ofDigitChars 10 (Nat.toDigits 10 n) 0 = n := Nat.ofDigitChars_ten_toDigits
    have whole := significand_digits digits (value ▸ fits) 0
    obtain ⟨c, ds, front, nonzero⟩ := head_toDigits pos
    rw [value] at whole
    rw [front] at whole digits ⊢
    have digit : Numeral.isDigit c = true := by
      simp [Numeral.isDigit, digit?_of_isDigit (digits c List.mem_cons_self)]
    rw [readUnsigned_of_ne nonzero, if_pos digit, whole]
    exact readTail_eq pointless negative n 0 true

theorem toList_render_int (n : Int) (inRange : -0x8000000000000000 ≤ n ∧ n < 0x10000000000000000) :
    (Number.int n inRange).render.toList =
      if n < 0 then '-' :: Nat.toDigits 10 n.natAbs else Nat.toDigits 10 n.natAbs := by
  cases n with
  | ofNat m =>
    have whole : ¬ Int.ofNat m < 0 := by simp
    rw [if_neg whole]
    show (Nat.repr m).toList = _
    simp [Nat.repr_eq_ofList_toDigits]
  | negSucc m =>
    rw [if_pos (Int.negSucc_lt_zero m)]
    show ("-" ++ Nat.repr (m + 1)).toList = _
    simp [Nat.repr_eq_ofList_toDigits]

theorem readNumber_toDigits (n : Nat) :
    readNumber (Nat.toDigits 10 n) = readUnsigned false (Nat.toDigits 10 n) := by
  cases digits : Nat.toDigits 10 n with
  | nil => exact absurd digits Nat.toDigits_ne_nil
  | cons c ds =>
    have first : c.isDigit = true :=
      Nat.isDigit_of_mem_toDigits (by decide) (by decide) (digits ▸ List.mem_cons_self)
    exact readNumber_of_ne (fun minus => by simp [minus] at first) ds

def Exact (n : Number) : Prop :=
  readNumber n.render.toList = some (n, [])

theorem wholeNumber?_natAbs {n : Int}
    (inRange : -0x8000000000000000 ≤ n ∧ n < 0x10000000000000000) :
    wholeNumber? (decide (n < 0)) n.natAbs 0 true = some (.int n inRange) := by
  have stored : Number.ofInt? n = some (.int n inRange) := dif_pos inRange
  by_cases negative : n < 0
  · have small : (n.natAbs = 0 || 0x8000000000000000 < n.natAbs) = false := by
      rw [Bool.or_eq_false_iff, decide_eq_false_iff_not, decide_eq_false_iff_not]
      omega
    have back : -Int.ofNat n.natAbs = n := Int.neg_eq_comm.1 (Int.ofNat_natAbs_of_nonpos
      (Int.le_of_lt negative)).symm
    rw [wholeNumber?, decide_eq_true negative, if_neg (by simp), if_pos rfl, small, back]
    exact stored
  · have back : Int.ofNat n.natAbs = n := Int.natAbs_of_nonneg (Int.not_lt.1 negative)
    rw [wholeNumber?, decide_eq_false negative, if_neg (by simp), if_neg (by simp), back]
    exact stored

theorem exact_int {n : Int} (inRange : -0x8000000000000000 ≤ n ∧ n < 0x10000000000000000) :
    Exact (.int n inRange) := by
  have fits : n.natAbs ≤ Numeral.wordBound := by
    simp only [Numeral.wordBound]
    omega
  have whole := wholeNumber?_natAbs inRange
  rw [Exact, toList_render_int]
  by_cases negative : n < 0
  · rw [decide_eq_true negative] at whole
    rw [if_pos negative]
    show readUnsigned true (Nat.toDigits 10 n.natAbs) = _
    rw [readUnsigned_toDigits true fits, whole]
    rfl
  · rw [decide_eq_false negative] at whole
    rw [if_neg negative, readNumber_toDigits, readUnsigned_toDigits false fits, whole]
    rfl

end Document

end RecordSync
