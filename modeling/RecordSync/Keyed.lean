set_option autoImplicit false

namespace RecordSync

abbrev Keyed (α : Type) := List (String × α)

namespace Keyed

variable {α β : Type}

def get? (key : String) : Keyed α → Option α
  | [] => none
  | (k, v) :: rest => if k = key then some v else get? key rest

def contains (key : String) (xs : Keyed α) : Bool :=
  (get? key xs).isSome

def insert (key : String) (value : α) : Keyed α → Keyed α
  | [] => [(key, value)]
  | (k, v) :: rest => if k = key then (k, value) :: rest else (k, v) :: insert key value rest

def insertSorted (key : String) (value : α) : Keyed α → Keyed α
  | [] => [(key, value)]
  | (k, v) :: rest =>
    if k = key then (k, value) :: rest
    else if key < k then (key, value) :: (k, v) :: rest
    else (k, v) :: insertSorted key value rest

def sorted (xs : Keyed α) : Keyed α :=
  xs.foldl (fun acc (k, v) => insertSorted k v acc) []

def erase (key : String) : Keyed α → Keyed α
  | [] => []
  | (k, v) :: rest => if k = key then rest else (k, v) :: erase key rest

def keys (xs : Keyed α) : List String :=
  xs.map Prod.fst

def Distinct (xs : Keyed α) : Prop :=
  (keys xs).Nodup

-- Entries inserted one after the other: each name at its first place, with its last value.
def collect (xs : Keyed α) : Keyed α :=
  xs.foldl (fun acc (k, v) => insert k v acc) []

def mapValues (f : α → β) (xs : Keyed α) : Keyed β :=
  xs.map fun (k, v) => (k, f v)

@[simp] theorem get?_nil (key : String) : get? key ([] : Keyed α) = none := rfl

@[simp] theorem get?_cons (key k : String) (v : α) (rest : Keyed α) :
    get? key ((k, v) :: rest) = if k = key then some v else get? key rest := rfl

@[simp] theorem keys_nil : keys ([] : Keyed α) = [] := rfl

@[simp] theorem keys_cons (k : String) (v : α) (rest : Keyed α) :
    keys ((k, v) :: rest) = k :: keys rest := rfl

theorem get?_insert (key other : String) (value : α) (xs : Keyed α) :
    get? other (insert key value xs) = if other = key then some value else get? other xs := by
  induction xs with
  | nil => by_cases h : other = key <;> simp [insert, h, Ne.symm]
  | cons x rest ih =>
    obtain ⟨k, v⟩ := x
    by_cases hk : k = key
    · subst hk
      by_cases h : other = k
      · simp [insert, h]
      · simp [insert, h, Ne.symm h]
    · by_cases h : other = key
      · subst h
        simp [insert, hk, ih]
      · simp [insert, hk, ih, h]

theorem get?_insert_self (key : String) (value : α) (xs : Keyed α) :
    get? key (insert key value xs) = some value := by
  simp [get?_insert]

theorem get?_insertSorted (key other : String) (value : α) (xs : Keyed α) :
    get? other (insertSorted key value xs) = if other = key then some value else get? other xs := by
  induction xs with
  | nil => by_cases h : other = key <;> simp [insertSorted, h, Ne.symm]
  | cons x rest ih =>
    obtain ⟨k, v⟩ := x
    by_cases hk : k = key
    · subst hk
      by_cases h : other = k
      · simp [insertSorted, h]
      · simp [insertSorted, h, Ne.symm h]
    · by_cases hl : key < k <;> by_cases h : other = key
      · simp [insertSorted, hk, hl, h]
      · simp [insertSorted, hk, hl, h, Ne.symm h]
      · subst h
        simp [insertSorted, hk, hl, ih]
      · simp [insertSorted, hk, hl, ih, h]

theorem get?_eq_none_iff (key : String) (xs : Keyed α) :
    get? key xs = none ↔ key ∉ keys xs := by
  induction xs with
  | nil => simp
  | cons x rest ih =>
    obtain ⟨k, v⟩ := x
    by_cases h : k = key
    · simp [h]
    · simp [h, ih, Ne.symm h]

theorem keys_insert (key : String) (value : α) (xs : Keyed α) :
    keys (insert key value xs) = if key ∈ keys xs then keys xs else keys xs ++ [key] := by
  induction xs with
  | nil => simp [insert]
  | cons x rest ih =>
    obtain ⟨k, v⟩ := x
    by_cases hk : k = key
    · simp [insert, hk]
    · by_cases hm : key ∈ keys rest <;> simp [insert, hk, ih, hm, Ne.symm hk]

theorem get?_erase_ne (key other : String) (h : other ≠ key) (xs : Keyed α) :
    get? other (erase key xs) = get? other xs := by
  induction xs with
  | nil => rfl
  | cons x rest ih =>
    obtain ⟨k, v⟩ := x
    by_cases hk : k = key
    · simp [erase, hk, Ne.symm h]
    · simp [erase, hk, ih]

theorem Distinct.insert {xs : Keyed α} (h : Distinct xs) (key : String) (value : α) :
    Distinct (Keyed.insert key value xs) := by
  unfold Distinct at *
  rw [keys_insert]
  split
  · exact h
  · rename_i hm
    rw [List.nodup_append]
    refine ⟨h, by simp, ?_⟩
    intro a ha b hb hab
    simp only [List.mem_singleton] at hb
    exact hm (hb ▸ hab ▸ ha)

end Keyed

end RecordSync
