set_option autoImplicit false

namespace RecordSync.Text

def cut (sep : Char) : List Char → List (List Char)
  | [] => [[]]
  | c :: cs =>
    if c = sep then [] :: cut sep cs
    else match cut sep cs with
      | [] => [[c]]
      | piece :: rest => (c :: piece) :: rest

theorem cut_ne_nil (sep : Char) (cs : List Char) : cut sep cs ≠ [] := by
  cases cs with
  | nil => simp [cut]
  | cons c cs =>
    by_cases h : c = sep
    · simp [cut, h]
    · simp only [cut, h, if_false]
      split <;> simp

theorem cut_eq_splitOn (sep : Char) (cs : List Char) : cut sep cs = cs.splitOn sep := by
  induction cs with
  | nil => rfl
  | cons c cs ih =>
    rw [List.splitOn_cons_eq_if_modifyHead, ← ih]
    by_cases same : c = sep
    · simp [cut, same]
    · cases pieces : cut sep cs with
      | nil => exact absurd pieces (cut_ne_nil sep cs)
      | cons first rest => simp [cut, same, pieces]

theorem cut_of_not_mem {sep : Char} {cs : List Char} (plain : sep ∉ cs) : cut sep cs = [cs] := by
  rw [cut_eq_splitOn, List.splitOn_eq_singleton plain]

theorem not_mem_of_mem_cut {sep : Char} {cs piece : List Char} (member : piece ∈ cut sep cs) :
    sep ∉ piece := by
  induction cs generalizing piece with
  | nil => simp_all [cut]
  | cons c cs ih =>
    by_cases same : c = sep
    · simp only [cut, same, if_true, List.mem_cons] at member
      rcases member with rfl | later
      · exact List.not_mem_nil
      · exact ih later
    · cases pieces : cut sep cs with
      | nil => exact absurd pieces (cut_ne_nil sep cs)
      | cons first rest =>
        simp only [cut, same, if_false, pieces, List.mem_cons] at member ih
        rcases member with rfl | later
        · simpa [Ne.symm same] using ih (Or.inl rfl)
        · exact ih (Or.inr later)

end RecordSync.Text
