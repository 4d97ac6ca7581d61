import RecordSync.Proofs.KeyedDocuments
import RecordSync.Proofs.PrintedNumbers

set_option autoImplicit false

namespace RecordSync

namespace Document

theorem hexValue?_hexDigit : ∀ n < 16, hexValue? (Text.hexDigit n) = some n := by decide

theorem hex4?_control {n : Nat} (control : n < 0x20) (rest : List Char) :
    hex4? ('0' :: '0' :: Text.hexDigit (n / 16) :: Text.hexDigit (n % 16) :: rest) =
      some (n, rest) := by
  have high := hexValue?_hexDigit (n / 16) (by omega)
  have low := hexValue?_hexDigit (n % 16) (by omega)
  have zero : hexValue? '0' = some 0 := by decide
  have whole : n / 16 * 16 + n % 16 = n := by omega
  simp [hex4?, high, low, zero, whole]

theorem readString_control {c : Char} (control : c.toNat < 0x20) (fuel : Nat)
    (acc rest : List Char) :
    readString (fuel + 1) acc ('\\' :: 'u' :: '0' :: '0' :: Text.hexDigit (c.toNat / 16) ::
      Text.hexDigit (c.toNat % 16) :: rest) = readString fuel (c :: acc) rest := by
  have leading : ¬ (0xD800 ≤ c.toNat ∧ c.toNat < 0xDC00) := by omega
  have trailing : ¬ (0xDC00 ≤ c.toNat ∧ c.toNat < 0xE000) := by omega
  simp [readString, hex4?_control control, leading, trailing]

theorem readString_escapeChar (fuel : Nat) (acc : List Char) (c : Char) (rest : List Char) :
    readString (fuel + 1) acc (Text.escapeChar c ++ rest) = readString fuel (c :: acc) rest := by
  unfold Text.escapeChar
  split
  · rfl
  · rfl
  · rfl
  · rfl
  · rfl
  · rename_i quote backslash _ _ _
    by_cases backspace : c.toNat = 0x08
    · rw [if_pos backspace, ← Char.ofNat_toNat c, backspace]
      rfl
    by_cases feed : c.toNat = 0x0C
    · rw [if_neg backspace, if_pos feed, ← Char.ofNat_toNat c, feed]
      rfl
    rw [if_neg backspace, if_neg feed]
    by_cases control : c.toNat < 0x20
    · rw [if_pos control]
      exact readString_control control fuel acc rest
    · have closing : c ≠ '"' := quote
      rw [if_neg control, List.singleton_append, readString, if_neg closing, if_neg control]
      exact backslash

theorem escapeChar_ne_nil (c : Char) : Text.escapeChar c ≠ [] := by
  unfold Text.escapeChar
  grind

theorem length_le_flatMap {α β : Type} {f : α → List β} (each : ∀ x, f x ≠ []) (xs : List α) :
    xs.length ≤ (xs.flatMap f).length := by
  induction xs with
  | nil => exact Nat.le_refl 0
  | cons x xs ih =>
    have front := List.length_pos_of_ne_nil (each x)
    simp only [List.flatMap_cons, List.length_append, List.length_cons]
    omega

theorem readString_escaped (cs : List Char) {fuel : Nat} (room : cs.length < fuel)
    (acc rest : List Char) :
    readString fuel acc (cs.flatMap Text.escapeChar ++ '"' :: rest) =
      some (String.ofList (acc.reverse ++ cs), rest) := by
  induction cs generalizing fuel acc with
  | nil =>
    obtain ⟨fuel, rfl⟩ := Nat.exists_eq_succ_of_ne_zero (Nat.ne_of_gt room)
    simp [readString]
  | cons c cs ih =>
    obtain ⟨fuel, rfl⟩ := Nat.exists_eq_succ_of_ne_zero (Nat.ne_of_gt (Nat.zero_lt_of_lt room))
    have later := ih (Nat.lt_of_succ_lt_succ room) (c :: acc)
    rw [List.flatMap_cons, List.append_assoc, readString_escapeChar, later]
    simp

theorem readString_quoted (text : String) (rest : List Char) :
    let cs := text.toList.flatMap Text.escapeChar ++ '"' :: rest
    readString (cs.length + 1) [] cs = some (text, rest) := by
  intro cs
  have room : text.toList.length < cs.length + 1 := by
    have escaped := length_le_flatMap escapeChar_ne_nil text.toList
    simp only [cs, List.length_append]
    omega
  rw [readString_escaped text.toList room]
  simp

theorem toList_quote (text : String) (rest : List Char) :
    (Text.quote text).toList ++ rest =
      '"' :: (text.toList.flatMap Text.escapeChar ++ '"' :: rest) := by
  simp [Text.quote]

end Document

namespace Value

mutual

def numbers : Value → List Number
  | .number n => [n]
  | .array items => itemNumbers items
  | .object fields => fieldNumbers fields
  | _ => []

def itemNumbers : List Value → List Number
  | [] => []
  | x :: xs => x.numbers ++ itemNumbers xs

def fieldNumbers : List (String × Value) → List Number
  | [] => []
  | (_, x) :: xs => x.numbers ++ fieldNumbers xs

end

def furtherItems (level : Nat) (items : List Value) : List Char :=
  items.flatMap fun x => ',' :: ((lineAt level).toList ++ (x.spread level).toList)

theorem furtherItems_cons (level : Nat) (x : Value) (xs : List Value) (tail : List Char) :
    furtherItems level (x :: xs) ++ tail =
      ',' :: ((lineAt level).toList ++
        ((x.spread level).toList ++ (furtherItems level xs ++ tail))) := by
  simp [furtherItems]

theorem toList_spreadItems (level : Nat) (x : Value) (xs : List Value) :
    (spreadItems level (x :: xs)).toList =
      (lineAt level).toList ++ ((x.spread level).toList ++ furtherItems level xs) := by
  induction xs generalizing x with
  | nil => simp [spreadItems, furtherItems]
  | cons y ys ih => simp [spreadItems, furtherItems, ih]

theorem toList_spread_array (level : Nat) (x : Value) (xs : List Value) (rest : List Char) :
    ((Value.array (x :: xs)).spread level).toList ++ rest =
      '[' :: ((lineAt (level + 1)).toList ++ ((x.spread (level + 1)).toList ++
        (furtherItems (level + 1) xs ++ ((lineAt level).toList ++ ']' :: rest)))) := by
  simp [spread, toList_spreadItems]

def spreadField (level : Nat) (entry : String × Value) : List Char :=
  (Text.quote entry.1).toList ++ (": ".toList ++ (entry.2.spread level).toList)

def furtherFields (level : Nat) (fields : Record) : List Char :=
  fields.flatMap fun entry => ',' :: ((lineAt level).toList ++ spreadField level entry)

theorem furtherFields_cons (level : Nat) (entry : String × Value) (fields : Record)
    (tail : List Char) :
    furtherFields level (entry :: fields) ++ tail =
      ',' :: ((lineAt level).toList ++
        (spreadField level entry ++ (furtherFields level fields ++ tail))) := by
  simp [furtherFields]

theorem toList_spreadFields (level : Nat) (entry : String × Value) (fields : Record) :
    (spreadFields level (entry :: fields)).toList =
      (lineAt level).toList ++ (spreadField level entry ++ furtherFields level fields) := by
  induction fields generalizing entry with
  | nil => simp [spreadFields, furtherFields, spreadField]
  | cons next fields ih => simp [spreadFields, furtherFields, spreadField, ih]

theorem toList_spread_object (level : Nat) (entry : String × Value) (fields : Record)
    (rest : List Char) :
    ((Value.object (entry :: fields)).spread level).toList ++ rest =
      '\x7b' :: ((lineAt (level + 1)).toList ++ (spreadField (level + 1) entry ++
        (furtherFields (level + 1) fields ++ ((lineAt level).toList ++ '\x7d' :: rest)))) := by
  simp [spread, toList_spreadFields]

end Value

namespace Document

open Value

theorem skipSpace_lineAt (level : Nat) (cs : List Char) :
    skipSpace ((lineAt level).toList ++ cs) = skipSpace cs := by
  have blanks (n : Nat) : skipSpace (List.replicate n ' ' ++ cs) = skipSpace cs := by
    induction n with
    | zero => rfl
    | succ n ih => exact ih
  simpa [lineAt, skipSpace, isSpace] using blanks (2 * level)

theorem skipSpace_cons {c : Char} (solid : isSpace c = false) (cs : List Char) :
    skipSpace (c :: cs) = c :: cs := by
  simp [skipSpace, solid]

theorem skipSpace_skipSpace (cs : List Char) : skipSpace (skipSpace cs) = skipSpace cs := by
  induction cs with
  | nil => rfl
  | cons c cs ih =>
    cases solid : isSpace c with
    | true => simpa [skipSpace, solid] using ih
    | false => rw [skipSpace_cons solid, skipSpace_cons solid]

theorem readValue_skipSpace (depth : Nat) (cs : List Char) :
    readValue depth (skipSpace cs) = readValue depth cs := by
  rw [readValue, readValue, skipSpace_skipSpace]

theorem readValue_lineAt (depth level : Nat) (cs : List Char) :
    readValue depth ((lineAt level).toList ++ cs) = readValue depth cs := by
  rw [← readValue_skipSpace, skipSpace_lineAt, readValue_skipSpace]

theorem apart_of_numeral {c : Char} (first : c = '-' ∨ Numeral.isDigit c = true) :
    isSpace c = false ∧ ∀ d ∈ ['n', 't', 'f', '"', '[', '\x7b', ']'], c ≠ d := by
  have others : [' ', '\n', '\t', '\r', 'n', 't', 'f', '"', '[', '\x7b', ']'].all
      (fun d => d ≠ '-' && !Numeral.isDigit d) = true := by decide
  have apart : ∀ d ∈ [' ', '\n', '\t', '\r', 'n', 't', 'f', '"', '[', '\x7b', ']'],
      c ≠ d := by
    rintro d member rfl
    have other := List.all_eq_true.1 others c member
    rw [Bool.and_eq_true, decide_eq_true_eq, Bool.not_eq_true'] at other
    rcases first with same | same
    · exact other.1 same
    · exact Bool.false_ne_true (other.2.symm.trans same)
  simp only [List.forall_mem_cons] at apart
  simp [isSpace, apart]

theorem readValue_number (depth : Nat) {cs : List Char} {read : Number × List Char}
    (found : readNumber cs = some read) : readValue depth cs = some (.number read.1, read.2) := by
  obtain ⟨c, tail, rfl, first⟩ := head_of_readNumber found
  obtain ⟨solid, inner⟩ := apart_of_numeral first
  simp only [List.forall_mem_cons] at inner
  rw [readValue, skipSpace_cons solid]
  split <;> simp_all

theorem readValue_string (depth : Nat) (text : String) (rest : List Char) :
    readValue depth ((Text.quote text).toList ++ rest) = some (.string text, rest) := by
  rw [toList_quote, readValue, skipSpace_cons rfl]
  exact congrArg (Option.map fun read => (Value.string read.1, read.2))
    (readString_quoted text rest)

def ReadsBack (depth level : Nat) (v : Value) : Prop :=
  ∀ rest, EndsNumeral rest → readValue depth ((v.spread level).toList ++ rest) = some (v, rest)

theorem endsNumeral_comma (cs : List Char) : EndsNumeral (',' :: cs) := by
  rintro c tail ⟨⟩
  decide

theorem endsNumeral_lineAt (level : Nat) (cs : List Char) :
    EndsNumeral ((lineAt level).toList ++ cs) := by
  intro c tail same
  obtain rfl : '\n' = c := by
    simp only [lineAt, String.toList_append] at same
    exact (List.cons_eq_cons.1 same).1
  decide

theorem readItems_spread {depth level : Nat} {x : Value} (back : ReadsBack depth level x)
    {tail : List Char} (ends : EndsNumeral tail) (count : Nat) (acc : List Value) :
    readItems depth (count + 1) acc ((x.spread level).toList ++ tail) =
      match skipSpace tail with
      | ',' :: rest => readItems depth count (x :: acc) rest
      | ']' :: rest => some (.array (x :: acc).reverse, rest)
      | _ => none := by
  rw [readItems, back tail ends]
  rfl

theorem readItems_lineAt (depth count level : Nat) (acc : List Value) (cs : List Char) :
    readItems depth count acc ((lineAt level).toList ++ cs) = readItems depth count acc cs := by
  cases count with
  | zero => rw [readItems, readItems]
  | succ count => rw [readItems, readItems, readValue_lineAt]

theorem readItems_further {depth level : Nat} {x : Value} {xs : List Value}
    (first : ReadsBack depth level x) (later : ∀ y ∈ xs, ReadsBack depth level y) {count : Nat}
    (room : xs.length < count) (acc : List Value) (outer : Nat) (rest : List Char) :
    readItems depth count acc ((x.spread level).toList ++
        (furtherItems level xs ++ ((lineAt outer).toList ++ ']' :: rest))) =
      some (.array (acc.reverse ++ x :: xs), rest) := by
  induction xs generalizing x acc count with
  | nil =>
    obtain ⟨count, rfl⟩ := Nat.exists_eq_succ_of_ne_zero (Nat.ne_of_gt room)
    rw [furtherItems, List.flatMap_nil, List.nil_append,
      readItems_spread first (endsNumeral_lineAt outer _), skipSpace_lineAt, skipSpace_cons rfl]
    simp
  | cons y ys ih =>
    obtain ⟨count, rfl⟩ := Nat.exists_eq_succ_of_ne_zero (Nat.ne_of_gt (Nat.zero_lt_of_lt room))
    obtain ⟨next, others⟩ := List.forall_mem_cons.1 later
    have remaining := ih next others (Nat.lt_of_succ_lt_succ room) (x :: acc)
    rw [furtherItems_cons, readItems_spread first (endsNumeral_comma _), skipSpace_cons rfl]
    show readItems depth count (x :: acc) _ = _
    rw [readItems_lineAt, remaining]
    simp

theorem readFields_spreadField {depth level : Nat} {entry : String × Value} {v : Value}
    {tail : List Char}
    (found : readValue depth ((entry.2.spread level).toList ++ tail) = some (v, tail))
    (count : Nat) (acc : Record) :
    readFields depth (count + 1) acc (spreadField level entry ++ tail) =
      match skipSpace tail with
      | ',' :: rest => readFields depth count ((entry.1, v) :: acc) rest
      | '\x7d' :: rest => some (.object ((entry.1, v) :: acc).reverse, rest)
      | _ => none := by
  have read := readString_quoted entry.1 (": ".toList ++ ((entry.2.spread level).toList ++ tail))
  have value : readValue depth (' ' :: ((entry.2.spread level).toList ++ tail)) =
      some (v, tail) := by
    rw [← readValue_skipSpace]
    show readValue depth (skipSpace ((entry.2.spread level).toList ++ tail)) = _
    rw [readValue_skipSpace, found]
  rw [readFields, spreadField, List.append_assoc, List.append_assoc, toList_quote,
    skipSpace_cons rfl]
  simp only [read]
  show (readValue depth (' ' :: ((entry.2.spread level).toList ++ tail))).bind _ = _
  rw [value]
  rfl

theorem readFields_lineAt (depth count level : Nat) (acc : Record) (cs : List Char) :
    readFields depth count acc ((lineAt level).toList ++ cs) = readFields depth count acc cs := by
  cases count with
  | zero => rw [readFields, readFields]
  | succ count => rw [readFields, readFields, skipSpace_lineAt]

theorem readFields_further {depth level : Nat} {entry : String × Value} {fields : Record}
    (first : ReadsBack depth level entry.2)
    (later : ∀ next ∈ fields, ReadsBack depth level next.2) {count : Nat}
    (room : fields.length < count) (acc : Record) (outer : Nat) (rest : List Char) :
    readFields depth count acc (spreadField level entry ++
        (furtherFields level fields ++ ((lineAt outer).toList ++ '\x7d' :: rest))) =
      some (.object (acc.reverse ++ entry :: fields), rest) := by
  induction fields generalizing entry acc count with
  | nil =>
    obtain ⟨count, rfl⟩ := Nat.exists_eq_succ_of_ne_zero (Nat.ne_of_gt room)
    rw [furtherFields, List.flatMap_nil, List.nil_append,
      readFields_spreadField (first _ (endsNumeral_lineAt outer _)), skipSpace_lineAt,
      skipSpace_cons rfl]
    simp
  | cons next fields ih =>
    obtain ⟨count, rfl⟩ := Nat.exists_eq_succ_of_ne_zero (Nat.ne_of_gt (Nat.zero_lt_of_lt room))
    obtain ⟨second, others⟩ := List.forall_mem_cons.1 later
    have remaining := ih second others (Nat.lt_of_succ_lt_succ room) (entry :: acc)
    rw [furtherFields_cons, readFields_spreadField (first _ (endsNumeral_comma _)),
      skipSpace_cons rfl]
    show readFields depth count (entry :: acc) _ = _
    rw [readFields_lineAt, remaining]
    simp

theorem head_spread (level : Nat) {v : Value} (exact : ∀ n ∈ v.numbers, Exact n) :
    ∃ c tail, (v.spread level).toList = c :: tail ∧ isSpace c = false ∧ c ≠ ']' := by
  cases v with
  | null => exact ⟨'n', ['u', 'l', 'l'], by simp [spread], by decide⟩
  | bool b =>
    cases b with
    | false => exact ⟨'f', ['a', 'l', 's', 'e'], by simp [spread], by decide⟩
    | true => exact ⟨'t', ['r', 'u', 'e'], by simp [spread], by decide⟩
  | number n =>
    obtain ⟨c, tail, front, first⟩ := head_of_readNumber (exact n List.mem_cons_self)
    obtain ⟨solid, inner⟩ := apart_of_numeral first
    exact ⟨c, tail, by rwa [spread], solid, inner _ (by decide)⟩
  | string text =>
    refine ⟨'"', text.toList.flatMap Text.escapeChar ++ ['"'], ?_, by decide⟩
    rw [spread, ← List.append_nil (Text.quote text).toList, toList_quote]
  | array items =>
    cases items with
    | nil => exact ⟨'[', [']'], by simp [spread], by decide⟩
    | cons x xs =>
      have text := toList_spread_array level x xs []
      rw [List.append_nil] at text
      exact ⟨'[', _, text, by decide⟩
  | object fields =>
    cases fields with
    | nil => exact ⟨'\x7b', ['\x7d'], by simp [spread], by decide⟩
    | cons entry fields =>
      have text := toList_spread_object level entry fields []
      rw [List.append_nil] at text
      exact ⟨'\x7b', _, text, by decide⟩

theorem readValue_bracket (depth : Nat) {cs tail : List Char} {c : Char}
    (front : skipSpace cs = c :: tail) (inner : c ≠ ']') :
    readValue (depth + 1) ('[' :: cs) = readItems depth (c :: tail).length [] (c :: tail) := by
  rw [readValue, skipSpace_cons rfl]
  simp only [front]
  split
  · exact absurd (List.cons_eq_cons.1 ‹_›).1 inner
  · rfl

theorem readValue_array_cons (depth level : Nat) {x : Value} (exact : ∀ n ∈ x.numbers, Exact n)
    (xs : List Value) (rest : List Char) :
    readValue (depth + 1) (((Value.array (x :: xs)).spread level).toList ++ rest) =
      (let text := (x.spread (level + 1)).toList ++
        (furtherItems (level + 1) xs ++ ((lineAt level).toList ++ ']' :: rest))
      readItems depth text.length [] text) := by
  obtain ⟨c, tail, front, solid, inner⟩ := head_spread (level + 1) exact
  rw [toList_spread_array, front]
  refine readValue_bracket depth ?_ inner
  rw [skipSpace_lineAt, List.cons_append, skipSpace_cons solid, List.append_eq]

theorem readsBack_array {depth level : Nat} {items : List Value}
    (exact : ∀ item ∈ items, ∀ n ∈ item.numbers, Exact n)
    (each : ∀ item ∈ items, ReadsBack depth (level + 1) item) :
    ReadsBack (depth + 1) level (.array items) := by
  intro rest _
  cases items with
  | nil => simp [spread, readValue, skipSpace, isSpace]
  | cons x xs =>
    obtain ⟨first, later⟩ := List.forall_mem_cons.1 each
    rw [readValue_array_cons depth level (exact x List.mem_cons_self)]
    refine readItems_further first later ?_ [] level rest
    have listed : xs.length ≤ (furtherItems (level + 1) xs).length :=
      length_le_flatMap (fun _ => List.cons_ne_nil _ _) xs
    simp only [List.length_append, List.length_cons]
    omega

theorem readValue_brace (depth : Nat) {cs tail : List Char} {c : Char}
    (front : skipSpace cs = c :: tail) (inner : c ≠ '\x7d') :
    readValue (depth + 1) ('\x7b' :: cs) = readFields depth (c :: tail).length [] (c :: tail) := by
  rw [readValue, skipSpace_cons rfl]
  simp only [front]
  split
  · exact absurd (List.cons_eq_cons.1 ‹_›).1 inner
  · rfl

theorem readValue_object_cons (depth level : Nat) (entry : String × Value) (fields : Record)
    (rest : List Char) :
    readValue (depth + 1) (((Value.object (entry :: fields)).spread level).toList ++ rest) =
      (let text := spreadField (level + 1) entry ++
        (furtherFields (level + 1) fields ++ ((lineAt level).toList ++ '\x7d' :: rest))
      readFields depth text.length [] text) := by
  rw [toList_spread_object, spreadField, List.append_assoc, List.append_assoc, toList_quote]
  exact readValue_brace depth (by rw [skipSpace_lineAt, skipSpace_cons rfl]) (by decide)

theorem readsBack_object {depth level : Nat} {fields : Record}
    (each : ∀ entry ∈ fields, ReadsBack depth (level + 1) entry.2) :
    ReadsBack (depth + 1) level (.object fields) := by
  intro rest _
  cases fields with
  | nil => simp [spread, readValue, skipSpace, isSpace]
  | cons entry fields =>
    obtain ⟨first, later⟩ := List.forall_mem_cons.1 each
    rw [readValue_object_cons]
    refine readFields_further first later ?_ [] level rest
    have listed : fields.length ≤ (furtherFields (level + 1) fields).length :=
      length_le_flatMap (fun _ => List.cons_ne_nil _ _) fields
    simp only [List.length_append, List.length_cons]
    omega

theorem depth_le_depthItems {items : List Value} {item : Value} (member : item ∈ items) :
    item.depth ≤ depthItems items := by
  induction items with
  | nil => cases member
  | cons x xs ih =>
    rw [depthItems]
    rcases List.mem_cons.1 member with rfl | later
    · exact Nat.le_max_left _ _
    · exact Nat.le_trans (ih later) (Nat.le_max_right _ _)

theorem depth_le_depthFields {fields : Record} {entry : String × Value} (member : entry ∈ fields) :
    entry.2.depth ≤ depthFields fields := by
  induction fields with
  | nil => cases member
  | cons first fields ih =>
    rw [depthFields]
    rcases List.mem_cons.1 member with rfl | later
    · exact Nat.le_max_left _ _
    · exact Nat.le_trans (ih later) (Nat.le_max_right _ _)

theorem mem_itemNumbers {items : List Value} {n : Number} :
    n ∈ itemNumbers items ↔ ∃ item ∈ items, n ∈ item.numbers := by
  induction items with
  | nil => simp [itemNumbers]
  | cons x xs ih => simp [itemNumbers, ih]

theorem mem_fieldNumbers {fields : Record} {n : Number} :
    n ∈ fieldNumbers fields ↔ ∃ entry ∈ fields, n ∈ entry.2.numbers := by
  induction fields with
  | nil => simp [fieldNumbers]
  | cons entry fields ih => simp [fieldNumbers, ih]

theorem readsBack {v : Value} (exact : ∀ n ∈ v.numbers, Exact n) {depth : Nat}
    (shallow : v.depth ≤ depth) (level : Nat) : ReadsBack depth level v := by
  -- What is inside an array or an object is read with one level less to spare, and printed one level
  -- further in.
  induction v using Value.induction generalizing depth level with
  | null => simp [ReadsBack, spread, readValue, skipSpace, isSpace]
  | bool b => cases b <;> simp [ReadsBack, spread, readValue, skipSpace, isSpace]
  | number n =>
    intro rest ends
    have read := ends.readNumber_append (exact n List.mem_cons_self)
    rw [spread, readValue_number depth read]
  | string text =>
    intro rest _
    rw [spread, readValue_string]
  | array items ih =>
    have inside : ∀ item ∈ items, ∀ n ∈ item.numbers, Exact n := fun item member n there =>
      exact n (mem_itemNumbers.2 ⟨item, member, there⟩)
    rw [Value.depth] at shallow
    obtain ⟨depth, rfl⟩ := Nat.exists_eq_add_of_le' (Nat.le_of_add_left_le shallow)
    refine readsBack_array inside fun item member => ih item member (inside item member) ?_ _
    exact Nat.le_trans (depth_le_depthItems member) (Nat.le_of_succ_le_succ shallow)
  | object fields ih =>
    rw [Value.depth] at shallow
    obtain ⟨depth, rfl⟩ := Nat.exists_eq_add_of_le' (Nat.le_of_add_left_le shallow)
    refine readsBack_object fun entry member => ih entry member
      (fun n there => exact n (mem_fieldNumbers.2 ⟨entry, member, there⟩)) ?_ _
    exact Nat.le_trans (depth_le_depthFields member) (Nat.le_of_succ_le_succ shallow)

end Document

namespace Value

theorem collectItems_of_all {items : List Value} (all : ∀ x ∈ items, x.collectKeys = x) :
    collectItems items = items := by
  induction items with
  | nil => rfl
  | cons x xs ih =>
    obtain ⟨first, later⟩ := List.forall_mem_cons.1 all
    rw [collectItems, first, ih later]

theorem collectFields_of_all {fields : Record}
    (all : ∀ entry ∈ fields, entry.2.collectKeys = entry.2) : collectFields fields = fields := by
  induction fields with
  | nil => rfl
  | cons entry fields ih =>
    obtain ⟨first, later⟩ := List.forall_mem_cons.1 all
    rw [collectFields, first, ih later]

theorem collectKeys_of_wellKeyed {v : Value} (keyed : v.WellKeyed) : v.collectKeys = v := by
  induction v using Value.induction with
  | array items ih =>
    have each := (wellKeyed_array_iff items).1 keyed
    rw [collectKeys, collectItems_of_all fun x member => ih x member (each x member)]
  | object fields ih =>
    have each (entry) (member : entry ∈ fields) :=
      ih entry member (Record.WellKeyed.value keyed member)
    rw [collectKeys, collectFields_of_all each,
      Keyed.collect_of_distinct (Record.WellKeyed.distinct keyed)]
  | _ => simp [collectKeys]

end Value

namespace Document

open Value

theorem read_spread {v : Value} (keyed : v.WellKeyed) (shallow : v.depth ≤ maxDepth)
    (exact : ∀ n ∈ v.numbers, Exact n) : read (v.spread 0 ++ "\n") = some v := by
  have ends : EndsNumeral ['\n'] := by
    rintro c tail ⟨⟩
    decide
  have entries : readEntries (v.spread 0 ++ "\n") = some v := by
    have value := readsBack exact shallow 0 _ ends
    rw [readEntries, String.toList_append, show "\n".toList = ['\n'] from rfl, value]
    rfl
  rw [read, entries, Option.map_some, Value.collectKeys_of_wellKeyed keyed]

theorem read_lone_number {name : String} {n m : Number}
    (found : readNumber n.render.toList = some (m, [])) :
    read ((Value.object [(name, .number n)]).spread 0 ++ "\n") =
      some (.object [(name, .number m)]) := by
  have tail := endsNumeral_lineAt 0 ['\x7d', '\n']
  have value : readValue 126 (((Value.number n).spread 1).toList ++
      ((lineAt 0).toList ++ ['\x7d', '\n'])) =
        some (.number m, (lineAt 0).toList ++ ['\x7d', '\n']) := by
    rw [spread]
    exact readValue_number 126 (tail.readNumber_append found)
  have entries : readValue maxDepth
      (((Value.object [(name, .number n)]).spread 0).toList ++ ['\n']) =
        some (.object [(name, .number m)], ['\n']) := by
    obtain ⟨count, length⟩ : ∃ count, (spreadField 1 (name, .number n) ++
        ((lineAt 0).toList ++ ['\x7d', '\n'])).length = count + 1 :=
      Nat.exists_eq_succ_of_ne_zero (by simp)
    have field := @readFields_spreadField 126 1 (name, .number n) _ _ value count []
    rw [maxDepth, readValue_object_cons]
    simp only [furtherFields, List.flatMap_nil, List.nil_append, Nat.zero_add, length]
    rw [field, skipSpace_lineAt, skipSpace_cons rfl]
    rfl
  rw [read, readEntries, String.toList_append, show "\n".toList = ['\n'] from rfl, entries]
  rfl

end Document

end RecordSync
