import RecordSync.Proofs.Agreement

set_option autoImplicit false

namespace RecordSync

theorem Number.beq_symm (f g : Float) : (f == g) = (g == f) := by
  rw [Bool.eq_iff_iff, beq_iff_place, beq_iff_place]
  constructor
  · rintro ⟨same, number⟩
    exact ⟨same.symm, same ▸ number⟩
  · rintro ⟨same, number⟩
    exact ⟨same.symm, same ▸ number⟩

theorem Number.agrees_symm (m n : Number) : m.agrees n = n.agrees m := by
  unfold agrees
  cases m.asInt64? with
  | none => cases n.asInt64? <;> exact beq_symm _ _
  | some i =>
    cases n.asInt64? with
    | none => exact beq_symm _ _
    | some j => exact BEq.comm

namespace Value

theorem agreesItems_of_refused {x : Value} {xs ys : List Value}
    (refused : ∀ y ∈ ys, y.agrees x = false) : agreesItems ys (x :: xs) = agreesItems ys xs := by
  induction ys generalizing xs with
  | nil => simp [agreesItems]
  | cons y ys ih =>
    obtain ⟨first, later⟩ := List.forall_mem_cons.1 refused
    cases taken : removeFirst? (fun z => y.agrees z) xs with
    | none => simp [agreesItems, removeFirst?, first, taken]
    | some rest => simp [agreesItems, removeFirst?, first, taken, ih later]

theorem agreesItems_of_taken {x y : Value} {before after xs : List Value}
    (refused : ∀ z ∈ before, z.agrees x = false) (agree : y.agrees x = true) :
    agreesItems (before ++ y :: after) (x :: xs) = agreesItems (before ++ after) xs := by
  -- What stands in front passes over `x`, so `x` is the first that is free when `y` chooses.
  induction before generalizing xs with
  | nil => simp [agreesItems, removeFirst?, agree]
  | cons z before ih =>
    obtain ⟨first, later⟩ := List.forall_mem_cons.1 refused
    cases taken : removeFirst? (fun w => z.agrees w) xs with
    | none => simp [agreesItems, removeFirst?, first, taken]
    | some rest => simp [agreesItems, removeFirst?, first, taken, ih later]

theorem length_le_of_agreesItems {xs ys : List Value} (agree : agreesItems xs ys = true) :
    xs.length ≤ ys.length := by
  induction xs generalizing ys with
  | nil => simp
  | cons x xs ih =>
    cases taken : removeFirst? (fun y => x.agrees y) ys with
    | none => simp [agreesItems, taken] at agree
    | some rest =>
      obtain ⟨before, y, after, rfl, rfl, _⟩ := removeFirst?_eq_some taken
      have shorter := ih (by simpa [agreesItems, taken] using agree)
      simp only [List.length_append, List.length_cons] at shorter ⊢
      omega

theorem agreesItems_symm {xs ys : List Value} (length : xs.length = ys.length)
    (each : ∀ x ∈ xs, ∀ y ∈ ys, x.agrees y = y.agrees x) :
    agreesItems xs ys = agreesItems ys xs := by
  induction xs generalizing ys with
  | nil =>
    obtain rfl := List.length_eq_zero_iff.1 length.symm
    rfl
  | cons x xs ih =>
    obtain ⟨first, later⟩ := List.forall_mem_cons.1 each
    cases taken : removeFirst? (fun y => x.agrees y) ys with
    | none =>
      -- No `y` takes `x`, and what is left is too short for all of them.
      have refused : ∀ y ∈ ys, y.agrees x = false := fun y member =>
        first y member ▸ removeFirst?_eq_none_iff.1 taken y member
      have short : agreesItems ys xs = false := by
        rw [Bool.eq_false_iff]
        intro agree
        have := length_le_of_agreesItems agree
        simp only [List.length_cons] at length
        omega
      simp [agreesItems, taken, agreesItems_of_refused refused, short]
    | some rest =>
      obtain ⟨before, y, after, rfl, rfl, agree, passed⟩ := removeFirst?_eq_some taken
      have refused : ∀ z ∈ before, z.agrees x = false := fun z member =>
        first z (by simp [member]) ▸ passed z member
      have back : y.agrees x = true := first y (by simp) ▸ agree
      have shorter : xs.length = (before ++ after).length := by
        simp only [List.length_append, List.length_cons] at length ⊢
        omega
      have rest : agreesItems xs (before ++ after) = agreesItems (before ++ after) xs := by
        refine ih shorter fun w wMember z zMember => later w wMember z ?_
        simp only [List.mem_append, List.mem_cons] at zMember ⊢
        exact zMember.imp_right Or.inr
      rw [agreesItems_of_taken refused back, ← rest]
      simp [agreesItems, taken]

theorem agreesFields_back {xs ys : Record} (xDistinct : Keyed.Distinct xs)
    (yDistinct : Keyed.Distinct ys) (length : xs.length = ys.length)
    (each : ∀ x ∈ xs, ∀ y ∈ ys, x.2.agrees y.2 = true → y.2.agrees x.2 = true)
    (agree : agreesFields xs ys = true) : agreesFields ys xs = true := by
  rw [agreesFields_iff] at agree ⊢
  have sameKeys := Keyed.perm_keys xDistinct length fun entry member =>
    (agree entry member).imp fun _ => And.left
  intro ⟨key, y⟩ member
  have listed : key ∈ Keyed.keys xs := sameKeys.mem_iff.2 (Keyed.mem_keys_of_mem member)
  obtain ⟨⟨_, x⟩, there, rfl⟩ := List.mem_map.1 listed
  obtain ⟨z, found, holds⟩ := agree (_, x) there
  obtain rfl : y = z := Option.some.inj ((Keyed.get?_of_mem yDistinct member).symm.trans found)
  exact ⟨x, Keyed.get?_of_mem xDistinct there, each _ there _ member holds⟩

theorem agrees_symm {a b : Value} (aKeyed : a.WellKeyed) (bKeyed : b.WellKeyed) :
    a.agrees b = b.agrees a := by
  induction a using Value.induction generalizing b with
  | null => cases b <;> simp [agrees]
  | bool p =>
    cases b with
    | bool q => simp [agrees, Bool.beq_comm]
    | _ => simp [agrees]
  | number m =>
    cases b with
    | number n => simpa [agrees] using Number.agrees_symm m n
    | _ => simp [agrees]
  | string s =>
    cases b with
    | string t => simp [agrees, eq_comm]
    | _ => simp [agrees]
  | array xs ih =>
    cases b with
    | array ys =>
      rw [wellKeyed_array_iff] at aKeyed bKeyed
      by_cases length : xs.length = ys.length
      · have items := agreesItems_symm length fun x xMember y yMember =>
          ih x xMember (aKeyed x xMember) (bKeyed y yMember)
        simp [agrees, length, items]
      · simp [agrees, beq_false_of_ne length, beq_false_of_ne (Ne.symm length)]
    | _ => simp [agrees]
  | object xs ih =>
    cases b with
    | object ys =>
      have values (x : String × Value) (xMember : x ∈ xs) (y : String × Value) (yMember : y ∈ ys) :
          x.2.agrees y.2 = y.2.agrees x.2 :=
        ih x xMember (Record.WellKeyed.value aKeyed xMember) (Record.WellKeyed.value bKeyed yMember)
      have aDistinct := Record.WellKeyed.distinct aKeyed
      have bDistinct := Record.WellKeyed.distinct bKeyed
      by_cases length : xs.length = ys.length
      · have fields : agreesFields xs ys = agreesFields ys xs := by
          rw [Bool.eq_iff_iff]
          constructor
          · exact agreesFields_back aDistinct bDistinct length fun x xMember y yMember holds =>
              values x xMember y yMember ▸ holds
          · exact agreesFields_back bDistinct aDistinct length.symm fun y yMember x xMember holds =>
              values x xMember y yMember ▸ holds
        simp [agrees, length, fields]
      · simp [agrees, beq_false_of_ne length, beq_false_of_ne (Ne.symm length)]
    | _ => simp [agrees]

-- On documents, whatever numbers they mix, agreement is reflexive and symmetric.
theorem agreement_reflexive_symmetric {a b : Value} (aKeyed : a.WellKeyed)
    (bKeyed : b.WellKeyed) : a.agrees a = true ∧ a.agrees b = b.agrees a :=
  ⟨agrees_self aKeyed, agrees_symm aKeyed bKeyed⟩

theorem agreement_reflexive_symmetric_on_close_numbers :
    let lower : Value := .number (.int 9007199254740992 (by decide))
    let upper : Value := .number (.int 9007199254740993 (by decide))
    let between : Value := .number (.float 9007199254740992.0 (by decide +kernel))
    let a : Value := .array [between, .object [("n", between)], lower]
    let b : Value := .array [lower, upper, .object [("n", upper)]]
    (between.agrees lower = true ∧ between.agrees upper = true ∧ lower.agrees upper = false) ∧
      a.agrees a = true ∧ a.agrees b = false ∧ b.agrees a = false := by
  intro lower upper between a b
  have aKeyed : a.WellKeyed := by
    simp [a, between, lower, WellKeyed, WellKeyedItems, WellKeyedFields, Keyed.Distinct]
  have bKeyed : b.WellKeyed := by
    simp [b, upper, lower, WellKeyed, WellKeyedItems, WellKeyedFields, Keyed.Distinct]
  obtain ⟨self, symm⟩ := agreement_reflexive_symmetric aKeyed bKeyed
  have differ : a.agrees b = false := by decide +kernel
  exact ⟨by decide +kernel, self, differ, symm ▸ differ⟩

end Value

end RecordSync
