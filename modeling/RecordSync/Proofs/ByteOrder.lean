import Mathlib.Tactic.SplitIfs
import RecordSync.Change

set_option autoImplicit false

namespace RecordSync

namespace Text

def bytes (s : String) : List UInt8 := s.toUTF8.data.toList

theorem bytes_eq (s : String) : bytes s = s.toList.flatMap String.utf8EncodeChar := by
  rw [bytes, String.toUTF8, ← String.utf8Encode_toList, List.utf8Encode,
    List.toList_data_toByteArray]

theorem byte_cons_lt {a b : Nat} (less : a < b) (small : b < 256) (xs ys : List UInt8) :
    UInt8.ofNat a :: xs < UInt8.ofNat b :: ys := by
  refine List.Lex.rel ?_
  rw [UInt8.lt_iff_toNat_lt, UInt8.toNat_ofNat', UInt8.toNat_ofNat']
  omega

-- The digit in front decides, and where it is the same those behind it do.
theorem byte_cons_lt_of_digits {a b m n : Nat} {xs ys : List UInt8} (less : a < b ∨ a = b ∧ m < n)
    (small : b < 256) (behind : m < n → xs < ys) : UInt8.ofNat a :: xs < UInt8.ofNat b :: ys := by
  rcases less with less | ⟨rfl, less⟩
  · exact byte_cons_lt less small xs ys
  · exact List.Lex.cons (behind less)

theorem utf8EncodeChar_append_lt {c d : Char} (less : c < d) (xs ys : List UInt8) :
    String.utf8EncodeChar c ++ xs < String.utf8EncodeChar d ++ ys := by
  have values : c.val.toNat < d.val.toNat := less
  have bound : d.val.toNat < 0x110000 := by
    have := d.valid
    grind
  unfold String.utf8EncodeChar
  generalize c.val.toNat = v, d.val.toNat = w at values bound
  dsimp only
  split_ifs
  -- The greater character has at least as many bytes, which leaves ten of the sixteen cases. With more
  -- bytes it also has a greater first byte.
  all_goals try omega
  · exact byte_cons_lt values (by omega) _ _
  · exact byte_cons_lt (by omega) (by omega) _ _
  · exact byte_cons_lt (by omega) (by omega) _ _
  · exact byte_cons_lt (by omega) (by omega) _ _
  · exact byte_cons_lt_of_digits (m := v % 64) (n := w % 64) (by omega) (by omega) fun last =>
      byte_cons_lt (by omega) (by omega) _ _
  · exact byte_cons_lt (by omega) (by omega) _ _
  · exact byte_cons_lt (by omega) (by omega) _ _
  · exact byte_cons_lt_of_digits (m := v % 4096) (n := w % 4096) (by omega) (by omega) fun later =>
      byte_cons_lt_of_digits (m := v % 64) (n := w % 64) (by omega) (by omega) fun last =>
        byte_cons_lt (by omega) (by omega) _ _
  · exact byte_cons_lt (by omega) (by omega) _ _
  · exact byte_cons_lt_of_digits (m := v % 262144) (n := w % 262144) (by omega) (by omega) fun tail =>
      byte_cons_lt_of_digits (m := v % 4096) (n := w % 4096) (by omega) (by omega) fun later =>
        byte_cons_lt_of_digits (m := v % 64) (n := w % 64) (by omega) (by omega) fun last =>
          byte_cons_lt (by omega) (by omega) _ _

theorem flatMap_utf8EncodeChar_lt {cs ds : List Char} (less : List.Lex (· < ·) cs ds) :
    cs.flatMap String.utf8EncodeChar < ds.flatMap String.utf8EncodeChar := by
  induction less with
  | @nil c cs =>
    have nonempty : String.utf8EncodeChar c ≠ [] := String.utf8EncodeChar_ne_nil
    rw [List.flatMap_cons]
    cases encoded : String.utf8EncodeChar c with
    | nil => exact absurd encoded nonempty
    | cons byte rest => exact List.nil_lt_cons _ _
  | rel earlier =>
    rw [List.flatMap_cons, List.flatMap_cons]
    exact utf8EncodeChar_append_lt earlier _ _
  | cons _ ih =>
    rw [List.flatMap_cons, List.flatMap_cons]
    exact List.append_left_lt ih

theorem bytes_lt {s t : String} (less : s < t) : bytes s < bytes t := by
  rw [bytes_eq, bytes_eq]
  exact flatMap_utf8EncodeChar_lt less

end Text

namespace Delta

theorem mem_dropRepeats {x : String} (xs : List String) : x ∈ dropRepeats xs ↔ x ∈ xs := by
  fun_induction dropRepeats xs with
  | case1 => rfl
  | case2 => rfl
  | case3 x rest ih => simp [ih]
  | case4 x y rest differ ih => simp [ih]

theorem pairwise_dropRepeats {xs : List String} (sorted : xs.Pairwise (· ≤ ·)) :
    (dropRepeats xs).Pairwise (· < ·) := by
  fun_induction dropRepeats xs with
  | case1 => exact .nil
  | case2 => exact List.pairwise_singleton _ _
  | case3 x rest ih => exact ih sorted.of_cons
  | case4 x y rest differ ih =>
    obtain ⟨first, later⟩ := List.pairwise_cons.1 sorted
    refine List.pairwise_cons.2 ⟨fun z member => ?_, ih later⟩
    -- What is left of y and the rest lies at y or above it, and y above x.
    have above : y ≤ z := by
      rcases List.mem_cons.1 ((mem_dropRepeats _).1 member) with rfl | member
      · exact String.le_refl z
      · exact (List.pairwise_cons.1 later).1 z member
    refine String.not_le.1 fun back => differ ?_
    exact String.le_antisymm (first y List.mem_cons_self) (String.le_trans above back)

theorem pairwise_affected (d : Delta) :
    d.affected.Pairwise fun a b => Text.bytes a < Text.bytes b := by
  have sorted : (d.names.mergeSort fun a b => decide (a ≤ b)).Pairwise (· ≤ ·) := by
    refine (List.pairwise_mergeSort ?_ ?_ d.names).imp fun {a b} le => of_decide_eq_true le
    · simpa using fun a b c => String.le_trans
    · simpa using String.le_total
  exact (pairwise_dropRepeats sorted).imp Text.bytes_lt

theorem mem_affected {d : Delta} {name : String} : name ∈ d.affected ↔ name ∈ d.names := by
  rw [affected, mem_dropRepeats, List.mem_mergeSort]

end Delta

end RecordSync
