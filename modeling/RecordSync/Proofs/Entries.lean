import Mathlib.Data.List.Perm.Subperm
import RecordSync.Keyed

set_option autoImplicit false

namespace RecordSync.Keyed

variable {α : Type}

@[simp] theorem distinct_nil : Distinct ([] : Keyed α) := List.nodup_nil

theorem distinct_cons (k : String) (v : α) (rest : Keyed α) :
    Distinct ((k, v) :: rest) ↔ k ∉ keys rest ∧ Distinct rest := by
  simp [Distinct]

theorem mem_keys_of_mem {k : String} {v : α} {xs : Keyed α} (member : (k, v) ∈ xs) :
    k ∈ keys xs :=
  List.mem_map_of_mem member

theorem mem_of_get? {k : String} {v : α} {xs : Keyed α} (found : get? k xs = some v) :
    (k, v) ∈ xs := by
  induction xs with
  | nil => simp at found
  | cons x rest ih =>
    obtain ⟨l, w⟩ := x
    by_cases same : l = k
    · simp only [get?_cons, same, if_true, Option.some.injEq] at found
      simp [same, found]
    · simp only [get?_cons, same, if_false] at found
      exact List.mem_cons_of_mem _ (ih found)

theorem get?_of_mem {k : String} {v : α} {xs : Keyed α} (distinct : Distinct xs)
    (member : (k, v) ∈ xs) : get? k xs = some v := by
  induction xs with
  | nil => simp at member
  | cons x rest ih =>
    obtain ⟨l, w⟩ := x
    obtain ⟨fresh, distinct⟩ := (distinct_cons l w rest).1 distinct
    rcases List.mem_cons.1 member with same | member
    · cases same
      simp
    · have other : l ≠ k := fun same => fresh (same ▸ mem_keys_of_mem member)
      simp [other, ih distinct member]

theorem perm_keys {β : Type} {xs : Keyed α} {ys : Keyed β} (distinct : Distinct xs)
    (length : xs.length = ys.length) (covered : ∀ entry ∈ xs, ∃ y, get? entry.1 ys = some y) :
    (keys xs).Perm (keys ys) := by
  have subset : keys xs ⊆ keys ys := by
    intro key member
    obtain ⟨entry, there, rfl⟩ := List.mem_map.1 member
    obtain ⟨y, found⟩ := covered entry there
    exact mem_keys_of_mem (mem_of_get? found)
  refine (List.subperm_of_subset distinct subset).perm_of_length_le ?_
  simp [keys, length]

theorem keys_erase (key : String) (xs : Keyed α) : keys (erase key xs) = (keys xs).erase key := by
  induction xs with
  | nil => rfl
  | cons x rest ih =>
    obtain ⟨k, v⟩ := x
    by_cases same : k = key
    · simp [erase, same]
    · simp [erase, same, ih]

theorem Distinct.erase {xs : Keyed α} (distinct : Distinct xs) (key : String) :
    Distinct (Keyed.erase key xs) := by
  unfold Distinct at *
  rw [keys_erase]
  exact distinct.erase key

theorem get?_erase {xs : Keyed α} (distinct : Distinct xs) (key other : String) :
    get? other (erase key xs) = if other = key then none else get? other xs := by
  by_cases same : other = key
  · rw [if_pos same, same, get?_eq_none_iff, keys_erase]
    exact List.Nodup.not_mem_erase distinct
  · rw [if_neg same, get?_erase_ne key other same]

theorem erase_of_get?_eq_none {key : String} {xs : Keyed α} (absent : get? key xs = none) :
    erase key xs = xs := by
  induction xs with
  | nil => rfl
  | cons x rest ih =>
    obtain ⟨k, v⟩ := x
    by_cases same : k = key
    · simp [same] at absent
    · simp only [get?_cons, same, if_false] at absent
      simp [erase, same, ih absent]

theorem insert_of_get? {key : String} {v : α} {xs : Keyed α} (found : get? key xs = some v) :
    insert key v xs = xs := by
  induction xs with
  | nil => simp at found
  | cons x rest ih =>
    obtain ⟨k, w⟩ := x
    by_cases same : k = key
    · simp only [get?_cons, same, if_true, Option.some.injEq] at found
      simp [insert, same, found]
    · simp only [get?_cons, same, if_false] at found
      simp [insert, same, ih found]

theorem insert_insert (key : String) (v w : α) (xs : Keyed α) :
    insert key w (insert key v xs) = insert key w xs := by
  induction xs with
  | nil => simp [insert]
  | cons x rest ih => by_cases same : x.1 = key <;> simp [insert, same, ih]

theorem length_insert_eq (key : String) (v w : α) (xs : Keyed α) :
    (insert key v xs).length = (insert key w xs).length := by
  have keys := keys_insert key v xs
  rw [← keys_insert key w xs] at keys
  simpa [Keyed.keys] using congrArg List.length keys

theorem mem_insert {key : String} {value : α} {xs : Keyed α} {entry : String × α}
    (member : entry ∈ insert key value xs) : entry = (key, value) ∨ entry ∈ xs := by
  induction xs with
  | nil => simpa [insert] using member
  | cons x rest ih =>
    obtain ⟨k, w⟩ := x
    by_cases same : k = key
    · simp only [insert, same, if_true, List.mem_cons] at member ⊢
      exact member.imp_right Or.inr
    · simp only [insert, same, if_false, List.mem_cons] at member ⊢
      rcases member with first | later
      · exact Or.inr (Or.inl first)
      · exact (ih later).imp_right Or.inr

theorem mem_erase {key : String} {xs : Keyed α} {entry : String × α}
    (member : entry ∈ erase key xs) : entry ∈ xs := by
  induction xs with
  | nil => exact member
  | cons x rest ih =>
    obtain ⟨k, w⟩ := x
    by_cases same : k = key
    · simp only [erase, same, if_true] at member
      exact List.mem_cons_of_mem _ member
    · simp only [erase, same, if_false, List.mem_cons] at member ⊢
      exact member.imp_right ih

theorem get?_append (key : String) (xs ys : Keyed α) :
    get? key (xs ++ ys) = (get? key xs).or (get? key ys) := by
  induction xs with
  | nil => rfl
  | cons x rest ih =>
    obtain ⟨k, v⟩ := x
    by_cases same : k = key <;> simp [same, ih]

theorem get?_filter {p : String × α → Bool} {key : String} (on : ∀ v, p (key, v) = true)
    (xs : Keyed α) : get? key (xs.filter p) = get? key xs := by
  induction xs with
  | nil => rfl
  | cons x rest ih =>
    obtain ⟨k, v⟩ := x
    by_cases same : k = key
    · subst same
      simp [on]
    · cases kept : p (k, v) <;> simp [same, kept, ih]

theorem exists_split_of_get? {key : String} {v : α} {xs : Keyed α} (found : get? key xs = some v) :
    ∃ before later, xs = before ++ (key, v) :: later ∧ key ∉ keys before := by
  induction xs with
  | nil => cases found
  | cons x rest ih =>
    obtain ⟨k, w⟩ := x
    by_cases same : k = key
    · simp only [get?_cons, same, if_true, Option.some.injEq] at found
      exact ⟨[], rest, by simp [same, found], by simp⟩
    · simp only [get?_cons, same, if_false] at found
      obtain ⟨before, later, rfl, fresh⟩ := ih found
      exact ⟨(k, w) :: before, later, rfl, by simp [fresh, Ne.symm same]⟩

theorem get?_split {key : String} {before later : Keyed α} (fresh : key ∉ keys before) (v : α) :
    get? key (before ++ (key, v) :: later) = some v := by
  simp [get?_append, (get?_eq_none_iff key before).2 fresh]

def assign (key : String) (value : Option α) (xs : Keyed α) : Keyed α :=
  match value with
  | some v => insert key v xs
  | none => erase key xs

theorem get?_assign {xs : Keyed α} (distinct : Distinct xs) (key other : String)
    (value : Option α) :
    get? other (assign key value xs) = if other = key then value else get? other xs := by
  cases value with
  | none => exact get?_erase distinct key other
  | some v => exact get?_insert key other v xs

theorem assign_get? (key : String) (xs : Keyed α) : assign key (get? key xs) xs = xs := by
  cases found : get? key xs with
  | none => exact erase_of_get?_eq_none found
  | some v => exact insert_of_get? found

theorem Distinct.assign {xs : Keyed α} (distinct : Distinct xs) (key : String)
    (value : Option α) : Distinct (Keyed.assign key value xs) := by
  cases value with
  | none => exact distinct.erase key
  | some v => exact distinct.insert key v

theorem mem_assign {key : String} {value : Option α} {xs : Keyed α} {entry : String × α}
    (member : entry ∈ assign key value xs) :
    (∃ v, value = some v ∧ entry = (key, v)) ∨ entry ∈ xs := by
  cases value with
  | none => exact Or.inr (mem_erase member)
  | some v => exact (mem_insert member).imp_left fun same => ⟨v, rfl, same⟩

theorem assign_split {key : String} {before later : Keyed α} (fresh : key ∉ keys before) (v : α)
    (value : Option α) : assign key value (before ++ (key, v) :: later) =
      before ++ (value.map (Prod.mk key)).toList ++ later := by
  induction before with
  | nil => cases value <;> simp [assign, insert, erase]
  | cons x rest ih =>
    obtain ⟨k, w⟩ := x
    obtain ⟨differ, fresh⟩ := not_or.1 (List.mem_cons.not.1 fresh)
    cases value with
    | none => simpa [assign, erase, Ne.symm differ] using ih fresh
    | some v => simpa [assign, insert, Ne.symm differ] using ih fresh

theorem Distinct.foldl_insert {xs acc : Keyed α} (distinct : Distinct acc) :
    Distinct (xs.foldl (fun acc (k, v) => Keyed.insert k v acc) acc) := by
  induction xs generalizing acc with
  | nil => exact distinct
  | cons x rest ih => exact ih (distinct.insert x.1 x.2)

theorem mem_foldl_insert {xs acc : Keyed α} {entry : String × α}
    (member : entry ∈ xs.foldl (fun acc (k, v) => insert k v acc) acc) :
    entry ∈ xs ∨ entry ∈ acc := by
  induction xs generalizing acc with
  | nil => exact Or.inr member
  | cons x rest ih =>
    rcases ih member with later | before
    · exact Or.inl (List.mem_cons_of_mem _ later)
    · rcases mem_insert before with same | before
      · exact Or.inl (List.mem_cons.2 (Or.inl same))
      · exact Or.inr before

theorem mem_of_mem_collect {xs : Keyed α} {entry : String × α} (member : entry ∈ collect xs) :
    entry ∈ xs :=
  (mem_foldl_insert member).resolve_right List.not_mem_nil

theorem mem_keys_insert {key other : String} {value : α} {xs : Keyed α} :
    other ∈ keys (insert key value xs) ↔ other = key ∨ other ∈ keys xs := by
  rw [keys_insert]
  by_cases present : key ∈ keys xs
  · rw [if_pos present]
    exact ⟨Or.inr, fun either => either.elim (fun same => same ▸ present) id⟩
  · rw [if_neg present, List.mem_append, List.mem_singleton, or_comm]

theorem mem_keys_foldl_insert {xs acc : Keyed α} {key : String} :
    key ∈ keys (xs.foldl (fun acc (k, v) => insert k v acc) acc) ↔
      key ∈ keys xs ∨ key ∈ keys acc := by
  induction xs generalizing acc with
  | nil => simp
  | cons x rest ih =>
    obtain ⟨k, v⟩ := x
    rw [List.foldl_cons, ih, mem_keys_insert, keys_cons, List.mem_cons, or_left_comm, or_assoc]

theorem mem_keys_collect {xs : Keyed α} {key : String} : key ∈ keys (collect xs) ↔ key ∈ keys xs :=
  mem_keys_foldl_insert.trans (or_iff_left List.not_mem_nil)

theorem insert_of_not_mem {key : String} {xs : Keyed α} (fresh : key ∉ keys xs) (value : α) :
    insert key value xs = xs ++ [(key, value)] := by
  induction xs with
  | nil => rfl
  | cons entry rest ih =>
    rw [keys_cons, List.mem_cons, not_or] at fresh
    rw [insert, if_neg (Ne.symm fresh.1), ih fresh.2, List.cons_append]

theorem foldl_insert_of_distinct {acc xs : Keyed α} (distinct : Distinct (acc ++ xs)) :
    xs.foldl (fun acc (k, v) => insert k v acc) acc = acc ++ xs := by
  induction xs generalizing acc with
  | nil => exact (List.append_nil acc).symm
  | cons entry rest ih =>
    have fresh : entry.1 ∉ keys acc := by
      rw [Distinct, keys, List.map_append, List.nodup_append] at distinct
      exact fun member => distinct.2.2 _ member _ List.mem_cons_self rfl
    have regrouped : acc ++ entry :: rest = acc ++ [entry] ++ rest := by simp
    have step : (insert entry.1 entry.2 acc : Keyed α) = acc ++ [entry] :=
      insert_of_not_mem fresh entry.2
    rw [regrouped, ← step] at distinct ⊢
    exact ih distinct

theorem collect_of_distinct {xs : Keyed α} (distinct : Distinct xs) : collect xs = xs :=
  foldl_insert_of_distinct (show Distinct ([] ++ xs) from distinct)

section Steps

structure Writes (step : Keyed α → Keyed α) (name : String) (write : Option α → Option α) :
    Prop where
  distinct : ∀ {acc}, Distinct acc → Distinct (step acc)
  get? : ∀ {acc}, Distinct acc → ∀ key, Keyed.get? key (step acc) =
    if key = name then write (Keyed.get? key acc) else Keyed.get? key acc

theorem writes_assign (name : String) (write : Option α → Option α) :
    Writes (fun acc => assign name (write (Keyed.get? name acc)) acc) name write := by
  refine ⟨fun distinct => distinct.assign _ _, fun distinct key => ?_⟩
  rw [get?_assign distinct]
  by_cases same : key = name
  · rw [if_pos same, if_pos same, same]
  · rw [if_neg same, if_neg same]

variable {ι : Type} {step : Keyed α → ι → Keyed α} {nameOf : ι → String}
  {write : ι → Option α → Option α} {xs : List ι} {acc : Keyed α}

theorem distinct_foldl_writes (writes : ∀ x ∈ xs, Writes (step · x) (nameOf x) (write x))
    (distinct : Distinct acc) : Distinct (xs.foldl step acc) := by
  induction xs generalizing acc with
  | nil => exact distinct
  | cons x rest ih =>
    obtain ⟨first, later⟩ := List.forall_mem_cons.1 writes
    exact ih later (first.distinct distinct)

theorem get?_foldl_writes_of_not_mem (writes : ∀ x ∈ xs, Writes (step · x) (nameOf x) (write x))
    (distinct : Distinct acc) {name : String} (other : name ∉ xs.map nameOf) :
    get? name (xs.foldl step acc) = get? name acc := by
  induction xs generalizing acc with
  | nil => rfl
  | cons x rest ih =>
    obtain ⟨first, later⟩ := List.forall_mem_cons.1 writes
    rw [List.map_cons, List.mem_cons, not_or] at other
    rw [List.foldl_cons, ih later (first.distinct distinct) other.2, first.get? distinct,
      if_neg other.1]

theorem get?_foldl_writes (writes : ∀ x ∈ xs, Writes (step · x) (nameOf x) (write x))
    (distinct : Distinct acc) (names : (xs.map nameOf).Nodup) {x : ι} (member : x ∈ xs) :
    get? (nameOf x) (xs.foldl step acc) = write x (get? (nameOf x) acc) := by
  -- Up to its own turn no step touches the name, and none does after it.
  induction xs generalizing acc with
  | nil => cases member
  | cons y rest ih =>
    obtain ⟨first, later⟩ := List.forall_mem_cons.1 writes
    rw [List.map_cons, List.nodup_cons] at names
    rw [List.foldl_cons]
    rcases List.mem_cons.1 member with rfl | member
    · rw [get?_foldl_writes_of_not_mem later (first.distinct distinct) names.1,
        first.get? distinct, if_pos rfl]
    · have other : nameOf x ≠ nameOf y := fun same => names.1 (same ▸ List.mem_map_of_mem member)
      rw [ih later (first.distinct distinct) names.2 member, first.get? distinct, if_neg other]

theorem keys_assign (key : String) (value : Option α) (xs : Keyed α) :
    keys (assign key value xs) =
      if value.isSome then if key ∈ keys xs then keys xs else keys xs ++ [key]
      else (keys xs).erase key := by
  cases value with
  | none => exact keys_erase key xs
  | some v => exact keys_insert key v xs

-- Of the keys after some changes, those that were there before come first and in their order, and
-- those that are new follow in the order in which they are named.
def KeepsOrder (before names after : List String) : Prop :=
  after = before.filter (· ∈ after) ++ names.filter fun name => name ∉ before ∧ name ∈ after

theorem KeepsOrder.refl (before : List String) : KeepsOrder before [] before := by
  have self : before.filter (· ∈ before) = before := List.filter_eq_self.2 (by simp)
  rw [KeepsOrder, self]
  simp

theorem KeepsOrder.assign {before names after : List String} {name : String} {put : Bool}
    (distinct : before.Nodup) (fresh : name ∉ names) (settled : name ∈ after ↔ put = true)
    (order : KeepsOrder (if put then if name ∈ before then before else before ++ [name]
      else before.erase name) names after) : KeepsOrder before (name :: names) after := by
  have other : ∀ later ∈ names, later ≠ name := fun later member same => fresh (same ▸ member)
  unfold KeepsOrder at order ⊢
  cases put with
  | true =>
    have stays : name ∈ after := settled.2 rfl
    by_cases there : name ∈ before
    · simpa [there] using order
    · have rest : names.filter (fun later => later ∉ before ++ [name] ∧ later ∈ after) =
          names.filter fun later => later ∉ before ∧ later ∈ after :=
        List.filter_congr fun later member => by simp [other later member]
      simp only [if_true, there, if_false, rest, List.filter_append] at order
      simpa [there, stays] using order
  | false =>
    have gone : name ∉ after := by simp [settled]
    have kept : (before.erase name).filter (· ∈ after) = before.filter (· ∈ after) := by
      rw [distinct.erase_eq_filter, List.filter_filter]
      refine List.filter_congr fun key _ => ?_
      by_cases same : key = name <;> simp [same, gone]
    have rest : names.filter (fun later => later ∉ before.erase name ∧ later ∈ after) =
        names.filter fun later => later ∉ before ∧ later ∈ after :=
      List.filter_congr fun later member => by simp [List.mem_erase_of_ne (other later member)]
    simp only [Bool.false_eq_true, if_false, kept, rest] at order
    simpa [gone] using order

theorem keepsOrder_foldl_assign (distinct : Distinct acc) (names : (xs.map nameOf).Nodup) :
    KeepsOrder (keys acc) (xs.map nameOf) (keys (xs.foldl
      (fun acc x => assign (nameOf x) (write x (get? (nameOf x) acc)) acc) acc)) := by
  induction xs generalizing acc with
  | nil =>
    exact KeepsOrder.refl (keys acc)
  | cons x rest ih =>
    rw [List.map_cons, List.nodup_cons] at names
    obtain ⟨fresh, names⟩ := names
    have assigned := distinct.assign (nameOf x) (write x (get? (nameOf x) acc))
    have settled := get?_foldl_writes_of_not_mem
      (fun y _ => writes_assign (nameOf y) (write y)) assigned fresh
    rw [get?_assign distinct, if_pos rfl] at settled
    have order := ih assigned names
    rw [keys_assign] at order
    refine KeepsOrder.assign distinct fresh ?_ order
    rw [← settled, ← not_iff_not, ← get?_eq_none_iff]
    simp

end Steps

end RecordSync.Keyed
