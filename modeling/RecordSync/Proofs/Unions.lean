import RecordSync.Proofs.Symmetry

set_option autoImplicit false

namespace RecordSync

namespace Value

theorem not_containedIn_of_missingFrom_eq {base extra before after : List Value} {x : Value}
    (appended : missingFrom base extra = before ++ x :: after) :
    x.containedIn (base ++ before) = false := by
  have member : x ∈ missingFrom base extra := by simp [appended]
  have apart := missingFrom_apart base extra
  rw [appended, List.pairwise_append] at apart
  rw [containedIn, List.any_append, Bool.or_eq_false_iff]
  refine ⟨not_containedIn_of_mem_missingFrom member, List.any_eq_false.2 fun y there => ?_⟩
  exact Bool.eq_false_iff.1 (apart.2.2 y there x List.mem_cons_self)

theorem containedIn_union_of_mem {base extra item : Value} (baseKeyed : base.WellKeyed)
    (extraKeyed : extra.WellKeyed) (member : item ∈ base.elements ++ extra.elements) :
    item.containedIn (base.union extra).elements = true := by
  rcases List.mem_append.1 member with old | new
  · exact containedIn_append_left _ (containedIn_self (baseKeyed.elements item old) old)
  · exact containedIn_union extraKeyed item new

-- A union appends elements of the other value in their order, all that it does not hold yet and
-- none that agrees with one in front of it, and joining the same value again changes nothing.
theorem union_adds_missing_once_in_order {base extra : Value} (baseKeyed : base.WellKeyed)
    (extraKeyed : extra.WellKeyed) :
    ∃ added, base.union extra = .array (base.elements ++ added) ∧
      added.Sublist extra.elements ∧
      (∀ x ∈ base.elements ++ extra.elements,
        x.containedIn (base.union extra).elements = true) ∧
      (∀ before x after, added = before ++ x :: after →
        ∀ y ∈ base.elements ++ before, x.agrees y = false ∧ y.agrees x = false) ∧
      (base.union extra).union extra = base.union extra := by
  refine ⟨missingFrom base.elements extra.elements, rfl, missingFrom_sublist _ _,
    fun x => containedIn_union_of_mem baseKeyed extraKeyed, ?_, union_union_self extraKeyed⟩
  -- The run asks whether what was there agrees with `x`; symmetry turns it around.
  intro before x after appended y there
  have fromExtra (z : Value) (member : z ∈ before ++ x :: after) : z.WellKeyed :=
    extraKeyed.elements z (mem_of_mem_missingFrom (appended ▸ member))
  have xKeyed : x.WellKeyed := fromExtra x (by simp)
  have yKeyed : y.WellKeyed := by
    rcases List.mem_append.1 there with old | earlier
    · exact baseKeyed.elements y old
    · exact fromExtra y (List.mem_append_left _ earlier)
  have apart : y.agrees x = false :=
    Bool.eq_false_iff.2 (List.any_eq_false.1 (not_containedIn_of_missingFrom_eq appended) y there)
  exact ⟨(agrees_symm xKeyed yKeyed).trans apart, apart⟩

theorem union_adds_missing_once_in_order_on_close_numbers :
    let lower : Value := .number (.int 36028797018963968 (by decide))
    let upper : Value := .number (.int 36028797018963969 (by decide))
    let between : Value := .number (.float 36028797018963968.0 (by decide +kernel))
    let extra : Value := .array [upper, between, .string "a", .string "a"]
    (between.agrees lower = true ∧ between.agrees upper = true ∧ lower.agrees upper = false) ∧
      lower.WellKeyed ∧ extra.WellKeyed ∧
      lower.union extra = .array [lower, upper, .string "a"] ∧
      ∃ added, lower.union extra = .array (lower.elements ++ added) ∧
        added.Sublist extra.elements ∧
        (∀ x ∈ lower.elements ++ extra.elements,
          x.containedIn (lower.union extra).elements = true) ∧
        (∀ before x after, added = before ++ x :: after →
          ∀ y ∈ lower.elements ++ before, x.agrees y = false ∧ y.agrees x = false) ∧
        (lower.union extra).union extra = lower.union extra := by
  intro lower upper between extra
  have lowerKeyed : lower.WellKeyed := wellKeyed_number _
  have extraKeyed : extra.WellKeyed := by
    simp [extra, upper, between, wellKeyed_array_iff]
  exact ⟨by decide +kernel, lowerKeyed, extraKeyed, by decide +kernel,
    union_adds_missing_once_in_order lowerKeyed extraKeyed⟩

end Value

end RecordSync
