import RecordSync.Proofs.KeyedDocuments
import RecordSync.Proofs.Magnitudes

set_option autoImplicit false

namespace RecordSync

theorem removeFirst?_eq_some {α : Type} {p : α → Bool} {xs rest : List α}
    (removed : removeFirst? p xs = some rest) :
    ∃ before x after, xs = before ++ x :: after ∧ rest = before ++ after ∧ p x = true ∧
      ∀ y ∈ before, p y = false := by
  induction xs generalizing rest with
  | nil => cases removed
  | cons x xs ih =>
    by_cases accepted : p x = true
    · simp only [removeFirst?, accepted, if_true, Option.some.injEq] at removed
      exact ⟨[], x, xs, rfl, removed.symm, accepted, by simp⟩
    · simp only [removeFirst?, accepted] at removed
      obtain ⟨tail, found, rfl⟩ := Option.map_eq_some_iff.1 removed
      obtain ⟨before, y, after, rfl, rfl, holds, refused⟩ := ih found
      exact ⟨x :: before, y, after, rfl, rfl, holds, by simpa [accepted] using refused⟩

theorem removeFirst?_eq_none_iff {α : Type} {p : α → Bool} {xs : List α} :
    removeFirst? p xs = none ↔ ∀ x ∈ xs, p x = false := by
  induction xs with
  | nil => simp [removeFirst?]
  | cons x xs ih => cases accepted : p x <;> simp [removeFirst?, accepted, ih]

namespace Value

theorem agreesFields_iff (xs ys : Record) :
    agreesFields xs ys = true ↔
      ∀ entry ∈ xs, ∃ y, Keyed.get? entry.1 ys = some y ∧ entry.2.agrees y = true := by
  induction xs with
  | nil => simp [agreesFields]
  | cons entry rest ih =>
    obtain ⟨k, x⟩ := entry
    simp only [agreesFields, Bool.and_eq_true, ih, List.forall_mem_cons]
    cases Keyed.get? k ys <;> simp

theorem agreesItems_self {items : List Value} (each : ∀ item ∈ items, item.agrees item = true) :
    agreesItems items items = true := by
  induction items with
  | nil => simp [agreesItems]
  | cons item rest ih =>
    obtain ⟨first, later⟩ := List.forall_mem_cons.1 each
    simpa [agreesItems, removeFirst?, first] using ih later

theorem agrees_self {v : Value} (keyed : v.WellKeyed) : v.agrees v = true := by
  induction v using Value.induction with
  | null => simp [agrees]
  | bool b => simp [agrees]
  | number n => simp [agrees, Number.agrees_self]
  | string s => simp [agrees]
  | array items ih =>
    have each := (wellKeyed_array_iff items).1 keyed
    simp [agrees, agreesItems_self fun item member => ih item member (each item member)]
  | object fields ih =>
    have covered : agreesFields fields fields = true := by
      rw [agreesFields_iff]
      intro entry member
      exact ⟨entry.2, Keyed.get?_of_mem (Record.WellKeyed.distinct keyed) member,
        ih entry member (Record.WellKeyed.value keyed member)⟩
    simp [agrees, covered]

theorem agreesItems_covers {xs ys : List Value} (length : xs.length = ys.length)
    (agree : agreesItems xs ys = true) : ∀ y ∈ ys, y.containedIn xs = true := by
  -- Each of the `xs` takes one of the `ys`, and the lengths say that none is left over.
  induction xs generalizing ys with
  | nil =>
    intro y member
    cases ys with
    | nil => cases member
    | cons z zs => cases length
  | cons x xs ih =>
    intro y member
    unfold agreesItems at agree
    split at agree
    case h_2 => cases agree
    case h_1 rest removed =>
      obtain ⟨before, taken, after, rfl, rfl, holds, _⟩ := removeFirst?_eq_some removed
      have shorter : xs.length = (before ++ after).length := by
        simp only [List.length_append, List.length_cons] at length ⊢
        omega
      have later := ih shorter agree
      have left : y = taken ∨ y ∈ before ++ after := by
        simp only [List.mem_append, List.mem_cons] at member ⊢
        rcases member with first | same | last
        · exact Or.inr (Or.inl first)
        · exact Or.inl same
        · exact Or.inr (Or.inr last)
      unfold containedIn
      rw [List.any_cons, Bool.or_eq_true]
      rcases left with same | member
      · exact Or.inl (same ▸ holds)
      · exact Or.inr (later y member)

theorem containedIn_of_agrees_array {xs ys : List Value}
    (agree : (array xs).agrees (array ys) = true) : ∀ y ∈ ys, y.containedIn xs = true := by
  simp only [agrees, Bool.and_eq_true, beq_iff_eq] at agree
  exact agreesItems_covers agree.1 agree.2

theorem eq_array_of_agrees {v : Value} {ys : List Value} (agree : v.agrees (array ys) = true) :
    ∃ xs, v = array xs := by
  cases v with
  | array xs => exact ⟨xs, rfl⟩
  | _ => simp [agrees] at agree

theorem containedIn_self {item : Value} (keyed : item.WellKeyed) {items : List Value}
    (member : item ∈ items) : item.containedIn items = true :=
  List.any_eq_true.2 ⟨item, member, agrees_self keyed⟩

theorem containedIn_append_left {needle : Value} {xs : List Value} (ys : List Value)
    (contained : needle.containedIn xs = true) : needle.containedIn (xs ++ ys) = true := by
  unfold containedIn at *
  rw [List.any_append, contained, Bool.true_or]

theorem WellKeyed.elements {v : Value} (keyed : v.WellKeyed) :
    ∀ item ∈ v.elements, item.WellKeyed := by
  cases v with
  | array items => exact (wellKeyed_array_iff items).1 keyed
  | null => simp [Value.elements]
  | object fields => simpa [Value.elements] using keyed
  | _ => simp [Value.elements]

theorem missingFrom_sublist (base extra : List Value) :
    (missingFrom base extra).Sublist extra := by
  induction extra generalizing base with
  | nil => exact .slnil
  | cons x xs ih =>
    unfold missingFrom
    split
    · exact (ih base).cons x
    · exact (ih (base ++ [x])).cons_cons x

theorem mem_of_mem_missingFrom {base extra : List Value} {item : Value}
    (member : item ∈ missingFrom base extra) : item ∈ extra :=
  (missingFrom_sublist base extra).subset member

theorem missingFrom_eq_nil {base extra : List Value}
    (contained : ∀ item ∈ extra, item.containedIn base = true) : missingFrom base extra = [] := by
  induction extra with
  | nil => rfl
  | cons x xs ih =>
    obtain ⟨first, later⟩ := List.forall_mem_cons.1 contained
    simp [missingFrom, first, ih later]

theorem containedIn_append_missingFrom {base extra : List Value}
    (keyed : ∀ item ∈ extra, item.WellKeyed) :
    ∀ item ∈ extra, item.containedIn (base ++ missingFrom base extra) = true := by
  induction extra generalizing base with
  | nil => exact fun _ member => nomatch member
  | cons x xs ih =>
    obtain ⟨first, later⟩ := List.forall_mem_cons.1 keyed
    rw [List.forall_mem_cons]
    by_cases there : x.containedIn base = true
    · simp only [missingFrom, there, if_true]
      exact ⟨containedIn_append_left _ there, ih later⟩
    · have shifted : base ++ missingFrom base (x :: xs) =
          base ++ [x] ++ missingFrom (base ++ [x]) xs := by
        simp [missingFrom, there]
      rw [shifted]
      refine ⟨containedIn_append_left _ (containedIn_self first (by simp)), ih later⟩

theorem missingFrom_append_eq (base kept extra : List Value) :
    missingFrom (base ++ kept) extra =
      missingFrom kept (extra.filter fun item => !item.containedIn base) := by
  -- Over the elements to come. `kept` is what the union has appended so far.
  induction extra generalizing kept with
  | nil => rfl
  | cons x xs ih =>
    have split : x.containedIn (base ++ kept) = (x.containedIn base || x.containedIn kept) :=
      List.any_append
    cases inBase : x.containedIn base with
    | true => simp [missingFrom, split, inBase, ih]
    | false => cases inKept : x.containedIn kept <;> simp [missingFrom, split, inBase, inKept, ih]

theorem not_containedIn_of_mem_missingFrom {base extra : List Value} {item : Value}
    (member : item ∈ missingFrom base extra) : item.containedIn base = false := by
  induction extra generalizing base with
  | nil => cases member
  | cons x xs ih =>
    cases there : x.containedIn base with
    | true => exact ih (by simpa [missingFrom, there] using member)
    | false =>
      simp only [missingFrom, there, Bool.false_eq_true, if_false, List.mem_cons] at member
      rcases member with rfl | later
      · exact there
      · have apart := ih later
        rw [containedIn, List.any_append, Bool.or_eq_false_iff] at apart
        exact apart.1

theorem missingFrom_apart (base extra : List Value) :
    (missingFrom base extra).Pairwise fun x y => x.agrees y = false := by
  induction extra generalizing base with
  | nil => exact .nil
  | cons x xs ih =>
    cases there : x.containedIn base with
    | true => simpa [missingFrom, there] using ih base
    | false =>
      simp only [missingFrom, there, Bool.false_eq_true, if_false]
      refine .cons (fun y member => ?_) (ih (base ++ [x]))
      have apart := not_containedIn_of_mem_missingFrom member
      simp only [containedIn, List.any_append, List.any_cons, List.any_nil, Bool.or_false,
        Bool.or_eq_false_iff] at apart
      exact apart.2

theorem WellKeyed.union {base extra : Value} (baseKeyed : base.WellKeyed)
    (extraKeyed : extra.WellKeyed) : (base.union extra).WellKeyed := by
  rw [Value.union, wellKeyed_array_iff]
  intro item member
  rcases List.mem_append.1 member with old | new
  · exact baseKeyed.elements item old
  · exact extraKeyed.elements item (mem_of_mem_missingFrom new)

theorem containedIn_union {base extra : Value} (keyed : extra.WellKeyed) :
    ∀ item ∈ extra.elements, item.containedIn (base.union extra).elements = true :=
  containedIn_append_missingFrom keyed.elements

theorem union_eq_append_missing (base extra : Value) :
    base.union extra = .array (base.elements ++ missingFrom []
      (extra.elements.filter fun item => !item.containedIn base.elements)) := by
  have moved := missingFrom_append_eq base.elements [] extra.elements
  rw [List.append_nil] at moved
  rw [Value.union, moved]

theorem union_missing (base extra : Value) :
    base.union (.array (extra.elements.filter fun item => !item.containedIn base.elements)) =
      base.union extra := by
  rw [union_eq_append_missing, union_eq_append_missing base extra, elements, List.filter_filter]
  simp only [Bool.and_self]

theorem union_of_contained {base extra : Value} (array : base.isArray = true)
    (contained : ∀ item ∈ extra.elements, item.containedIn base.elements = true) :
    base.union extra = base := by
  unfold Value.union
  rw [missingFrom_eq_nil contained, List.append_nil]
  cases base with
  | array items => rfl
  | _ => cases array

theorem union_union_self {base extra : Value} (keyed : extra.WellKeyed) :
    (base.union extra).union extra = base.union extra :=
  union_of_contained rfl (containedIn_union keyed)

theorem union_self {v : Value} (array : v.isArray = true) (keyed : v.WellKeyed) :
    v.union v = v :=
  union_of_contained array fun item member => containedIn_self (keyed.elements item member) member

end Value

end RecordSync
