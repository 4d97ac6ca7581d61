import RecordSync.Document.InPlace
import RecordSync.Proofs.Declarations
import RecordSync.Proofs.Walks

set_option autoImplicit false

namespace RecordSync.Path

variable {new : Value} {path key segment : String} {rest : List String} {fields : Record}

-- The longest key of an object that leaves segments over and holds a container.
structure Through (fields : Record) (parts : List String) (n : Nat) (child : Value) : Prop where
  taken : 0 < n
  leaves : n < parts.length
  found : Keyed.get? (".".intercalate (parts.take n)) fields = some child
  container : child.isContainer = true
  longest : ∀ m other, n < m → m < parts.length →
    Keyed.get? (".".intercalate (parts.take m)) fields = some other → other.isContainer = false

theorem intercalate_take_extend (m : Nat) :
    ".".intercalate ((extend key segment :: rest).take (m + 1)) =
      ".".intercalate ((key :: segment :: rest).take (m + 2)) := by
  simp only [List.take_succ_cons, intercalate_cons, List.foldl_cons]

theorem Through.extended {n : Nat} {child : Value}
    (through : Through fields (extend key segment :: rest) n child) :
    Through fields (key :: segment :: rest) (n + 1) child := by
  obtain ⟨taken, leaves, found, container, longest⟩ := through
  obtain ⟨n, rfl⟩ := Nat.exists_eq_add_one.2 taken
  refine ⟨Nat.succ_pos _, Nat.succ_lt_succ leaves, ?_, container, ?_⟩
  · rwa [← intercalate_take_extend]
  · intro m other longer within there
    obtain ⟨m, rfl⟩ : ∃ k, m = k + 2 := ⟨m - 2, by omega⟩
    rw [← intercalate_take_extend] at there
    exact longest (m + 1) other (by omega) (by simpa using within) there

theorem scalar_of_through? (run : through? fields key rest = none) {m : Nat} {child : Value}
    (taken : 0 < m) (leaves : m < (key :: rest).length)
    (found : Keyed.get? (".".intercalate ((key :: rest).take m)) fields = some child) :
    child.isContainer = false := by
  induction rest generalizing key m with
  | nil => simp at leaves; omega
  | cons segment rest ih =>
    rw [through?] at run
    split at run
    · cases run
    · rename_i shorter
      obtain ⟨m, rfl⟩ := Nat.exists_eq_add_one.2 taken
      cases m with
      | zero =>
        have here : Keyed.get? key fields = some child := by simpa using found
        simpa [here] using run
      | succ m =>
        rw [← intercalate_take_extend] at found
        exact ih shorter (Nat.succ_pos m) (by simpa using leaves) found

theorem through_of_through? {longest : String} {left : List String} {child : Value}
    (run : through? fields key rest = some (longest, child, left)) :
    ∃ n, Through fields (key :: rest) n child ∧
      longest = ".".intercalate ((key :: rest).take n) ∧ left = (key :: rest).drop n := by
  induction rest generalizing key with
  | nil => cases run
  | cons segment rest ih =>
    rw [through?] at run
    split at run
    · rename_i longer
      cases run
      obtain ⟨n, through, rfl, rfl⟩ := ih longer
      obtain ⟨n, rfl⟩ := Nat.exists_eq_add_one.2 through.taken
      exact ⟨n + 2, through.extended, intercalate_take_extend n, rfl⟩
    · rename_i none
      split at run
      · rename_i here
        split at run
        · rename_i container
          cases run
          refine ⟨1, ⟨Nat.one_pos, by simp, by simpa using here, container, ?_⟩, by simp, rfl⟩
          intro m other longer leaves there
          obtain ⟨m, rfl⟩ : ∃ k, m = k + 2 := ⟨m - 2, by omega⟩
          rw [← intercalate_take_extend] at there
          exact scalar_of_through? none (Nat.succ_pos m) (by simpa using leaves) there
        · cases run
      · cases run

def writeHere (new : Value) (path : String) : List String → Value → Except PathError Written
  | [], v => .ok (new, some v)
  | segment :: rest, v => writeFrom new path segment rest (write new path rest) v

theorem write_here (segments : List String) (v : Value) :
    write new path segments (.here v) = some (writeHere new path segments v) := by
  cases segments <;> rfl

theorem writeHere_array (items : List Value) :
    writeHere new path (segment :: rest) (.array items) =
      match Numeral.index? segment with
      | none => .error (.notContainer path segment)
      | some i =>
        match items[i]? with
        | some child => (writeHere new path rest child).map fun (child, old) =>
            (.array (items.set i child), old)
        | none =>
          if rest = [] ∧ i = items.length then .ok (.array (items ++ [new]), none)
          else .error (.outOfBounds path segment) := by
  rw [writeHere, writeFrom]
  cases Numeral.index? segment with
  | none => rfl
  | some i =>
    simp only [write_here]
    cases items[i]? with
    | none => rfl
    | some child =>
      dsimp only
      cases writeHere new path rest child <;> rfl

theorem write_inside :
    write new path rest (.inside fields key) =
      match Keyed.get? (rest.foldl extend key) fields with
      | some old => some (.ok (.object (Keyed.insert (rest.foldl extend key) new fields), some old))
      | none => (through? fields key rest).map fun (found, child, left) =>
        (writeHere new path left child).map fun (child, old) =>
          (.object (Keyed.insert found child fields), old) := by
  induction rest generalizing key with
  | nil =>
    simp only [write, List.foldl_nil, through?]
    cases Keyed.get? key fields <;> rfl
  | cons segment rest ih =>
    rw [List.foldl_cons, write, ih, through?]
    cases Keyed.get? (rest.foldl extend (extend key segment)) fields with
    | some old => rfl
    | none =>
      cases through? fields (extend key segment) rest with
      | some longer => rfl
      | none =>
        cases Keyed.get? key fields with
        | none => rfl
        | some child => cases container : child.isContainer <;> simp [container, writeHere]

theorem write_inside_empty : write new path rest (.inside [] key) = none := by
  induction rest generalizing key with
  | nil => rfl
  | cons segment rest ih => simp [write, ih]

theorem writeHere_empty (segment : String) (rest : List String) :
    writeHere new path (segment :: rest) (.object []) = .ok (nest new (segment :: rest), none) := by
  simp [writeHere, writeFrom, write_inside_empty, nest, Keyed.contains, Keyed.insert]

def landed (node : Value) : Except PathError Written → Edited Value
  | .ok (after, old) => (.ok old, after)
  | .error e => (.error e, node)

theorem map_landed {node child : Value} (written : Except PathError Written)
    (put : Value → Value) (back : put child = node) :
    ((landed child written).1, put (landed child written).2) =
      landed node (written.map fun (after, old) => (put after, old)) := by
  cases written with
  | ok written => rfl
  | error e => exact congrArg (Prod.mk _) back

def Lands (new : Value) (path : String) (segments : List String) (node : Value) : Prop :=
  editValue new path segments node = landed node (writeHere new path segments node)

theorem lands_object (segment : String) (rest : List String) (fields : Record)
    (onward : ∀ next left child, left.length < rest.length → Lands new path (next :: left) child) :
    Lands new path (segment :: rest) (.object fields) := by
  rw [Lands, editValue, editFields, writeHere, writeFrom, write_inside]
  cases Keyed.get? (rest.foldl extend segment) fields with
  | some old => rfl
  | none =>
    dsimp only
    split
    · rename_i found child left run
      obtain ⟨n, through, key, same⟩ := through_of_through? run
      obtain ⟨next, left, rfl⟩ := List.exists_cons_of_ne_nil
        (same ▸ List.drop_eq_nil_iff.not.2 (Nat.not_le.2 through.leaves))
      have there := key ▸ through.found
      have shorter := length_of_through? run
      rw [onward next left child (by simp at shorter; omega), run]
      exact map_landed _ (fun child => .object (Keyed.insert found child fields))
        (by rw [Keyed.insert_of_get? there])
    · rename_i run
      rw [run]
      cases rest with
      | nil => simp [landed, nest]
      | cons next rest =>
        cases there : Keyed.get? segment fields with
        | some child =>
          have scalar := scalar_of_through? run Nat.one_pos (by simp) (by simpa using there)
          simp [scalar, Keyed.contains, there, landed]
        | none =>
          -- The object made on the way is empty, so the rest of the write cannot fail.
          have made : editValue new path (next :: rest) (.object []) = _ :=
            onward next rest (.object []) (by simp)
          simp [Value.isContainer, Keyed.contains, there, made, writeHere_empty, landed,
            Keyed.insert_insert, nest]

theorem lands_array (segment : String) (rest : List String) (items : List Value)
    (onward : ∀ child, rest ≠ [] → Lands new path rest child) :
    Lands new path (segment :: rest) (.array items) := by
  rw [Lands, editValue, writeHere_array]
  cases Numeral.index? segment with
  | none => rfl
  | some i =>
    cases there : items[i]? with
    | none => by_cases fits : rest = [] ∧ i = items.length <;> simp [there, fits, landed]
    | some child =>
      have back : items.set i child = items := by
        obtain ⟨within, rfl⟩ := List.getElem?_eq_some_iff.1 there
        exact List.set_getElem_self within
      simp only [there]
      cases rest with
      | nil => rfl
      | cons next rest =>
        rw [if_neg (List.cons_ne_nil _ _), onward child (List.cons_ne_nil _ _)]
        exact map_landed _ (fun child => .array (items.set i child)) (by rw [back])

theorem lands (segment : String) (rest : List String) (node : Value) :
    Lands new path (segment :: rest) node := by
  induction length : rest.length using Nat.strongRecOn generalizing segment rest node with
  | ind n ih =>
    subst length
    cases node with
    | object fields =>
      exact lands_object segment rest fields fun next left child shorter =>
        ih left.length shorter next left child rfl
    | array items =>
      refine lands_array segment rest items fun child more => ?_
      obtain ⟨next, rest, rfl⟩ := List.exists_cons_of_ne_nil more
      exact ih rest.length (by simp) next rest child rfl
    | _ => simp [Lands, editValue, writeHere, writeFrom, landed]

section Reading

variable {segments : List String} {after : Value} {old : Option Value}

theorem length_extend (key segment : String) :
    (extend key segment).length = key.length + 1 + segment.length := by
  rw [extend, String.length_append, String.length_append]
  rfl

theorem find_congr {others : Record} (segments : List String) (key : String)
    (same : ∀ other : String, key.length ≤ other.length →
      Keyed.get? other fields = Keyed.get? other others) :
    Cursor.find segments (.inside fields key) = Cursor.find segments (.inside others key) := by
  induction segments generalizing key with
  | nil => simp [Cursor.find, Cursor.value?, same key (Nat.le_refl _)]
  | cons segment rest ih =>
    have longer := ih (extend key segment) fun other within =>
      same other (by rw [length_extend] at within; omega)
    rw [Cursor.find_inside_cons, Cursor.find_inside_cons, longer, same key (Nat.le_refl _)]

theorem find_insert_of_longer (segment : String) (v : Value) :
    Cursor.find segments (.inside (Keyed.insert key v fields) (extend key segment)) =
      Cursor.find segments (.inside fields (extend key segment)) := by
  apply find_congr segments (extend key segment)
  intro other within
  have differ : other ≠ key := by
    rintro rfl
    rw [length_extend] at within
    omega
  rw [Keyed.get?_insert, if_neg differ]

theorem find_empty : Cursor.find segments (.inside [] key) = none := by
  induction segments generalizing key with
  | nil => rfl
  | cons segment rest ih => simp [Cursor.find_inside_cons, ih]

theorem find_here_of_scalar {child : Value} (scalar : child.isContainer = false) :
    Cursor.find (segment :: rest) (.here child) = none := by
  cases child with
  | array | object => cases scalar
  | _ => rfl

theorem find_of_write_eq_none (unwritten : write new path segments (.inside fields key) = none) :
    Cursor.find segments (.inside fields key) = none := by
  induction segments generalizing key with
  | nil =>
    cases found : Keyed.get? key fields with
    | none => simp [Cursor.find, Cursor.value?, found]
    | some v => simp [write, found] at unwritten
  | cons segment rest ih =>
    rw [Cursor.find_inside_cons]
    cases longer : write new path rest (.inside fields (extend key segment)) with
    | some written => simp [write, longer] at unwritten
    | none =>
      rw [ih longer, Option.none_or]
      cases found : Keyed.get? key fields with
      | none => rfl
      | some child =>
        cases container : child.isContainer with
        | false => exact find_here_of_scalar container
        | true => simp [write, longer, found, container] at unwritten

theorem find_nest (segments : List String) (key : String) (fields : Record)
    (unread : Cursor.find segments (.inside fields key) = none) :
    Cursor.find segments (.inside (Keyed.insert key (nest new segments) fields) key) =
      some new := by
  induction segments generalizing fields key with
  | nil => simp [Cursor.find, Cursor.value?, nest, Keyed.get?_insert_self]
  | cons segment rest ih =>
    rw [Cursor.find_inside_cons, Option.or_eq_none_iff] at unread
    rw [Cursor.find_inside_cons, find_insert_of_longer, unread.1, Keyed.get?_insert_self]
    simpa [nest, Cursor.find_here_object, Keyed.insert] using
      ih segment [] find_empty

def FoundHere (new : Value) (path : String) (segments : List String) : Prop :=
  ∀ v after old, writeHere new path segments v = .ok (after, old) →
    Cursor.find segments (.here after) = some new

def FoundInside (new : Value) (path : String) (segments : List String) : Prop :=
  ∀ fields key after old, write new path segments (.inside fields key) = some (.ok (after, old)) →
    ∃ others, after = .object others ∧ Cursor.find segments (.inside others key) = some new

theorem foundHere_cons (segment : String) (here : FoundHere new path rest)
    (inside : FoundInside new path rest) :
    FoundHere new path (segment :: rest) := by
  intro v after old wrote
  cases v with
  | object fields =>
    rw [writeHere, writeFrom] at wrote
    cases run : write new path rest (.inside fields segment) with
    | some written =>
      simp only [run] at wrote
      obtain ⟨others, rfl, found⟩ := inside fields segment after old (wrote ▸ run)
      rwa [Cursor.find_here_object]
    | none =>
      simp only [run] at wrote
      split at wrote
      · cases wrote
      · cases wrote
        rw [Cursor.find_here_object]
        exact find_nest rest segment fields (find_of_write_eq_none run)
  | array items =>
    rw [writeHere_array] at wrote
    cases index : Numeral.index? segment with
    | none => simp [index] at wrote
    | some i =>
      cases there : items[i]? with
      | some child =>
        simp only [index, there] at wrote
        obtain ⟨⟨child, _⟩, below, same⟩ := Except.map_eq_ok wrote
        cases same
        have within := (List.getElem?_eq_some_iff.1 there).1
        simpa [Cursor.find_here_array, index, within] using here _ _ _ below
      | none =>
        simp only [index, there] at wrote
        split at wrote
        · rename_i last
          obtain ⟨rfl, rfl⟩ := last
          cases wrote
          rw [Cursor.find_here_array, index]
          simp [Cursor.find, Cursor.value?]
        · cases wrote
  | _ => cases wrote

theorem foundInside_cons (inside : FoundInside new path rest)
    (here : FoundHere new path (segment :: rest)) : FoundInside new path (segment :: rest) := by
  intro fields key after old wrote
  rw [write] at wrote
  cases run : write new path rest (.inside fields (extend key segment)) with
  | some written =>
    simp only [run] at wrote
    obtain ⟨others, rfl, found⟩ := inside fields _ after old (wrote ▸ run)
    exact ⟨others, rfl, by rw [Cursor.find_inside_cons, found, Option.some_or]⟩
  | none =>
    simp only [run] at wrote
    split at wrote
    · split at wrote
      · obtain ⟨⟨child, _⟩, below, same⟩ := Except.map_eq_ok (Option.some.inj wrote)
        cases same
        refine ⟨_, rfl, ?_⟩
        -- The keys that go on are as they were, so what is found comes from the one written at.
        rw [Cursor.find_inside_cons, find_insert_of_longer, find_of_write_eq_none run,
          Keyed.get?_insert_self]
        exact here _ child _ below
      · cases wrote
    · cases wrote

theorem found_after_write (segments : List String) :
    FoundHere new path segments ∧ FoundInside new path segments := by
  induction segments with
  | nil =>
    constructor
    · rintro v after old ⟨⟩
      rfl
    · intro fields key after old wrote
      obtain ⟨_, _, ⟨⟩⟩ := Option.map_eq_some_iff.1 wrote
      exact ⟨_, rfl, by simp [Cursor.find, Cursor.value?, Keyed.get?_insert_self]⟩
  | cons segment rest ih =>
    have here := foundHere_cons segment ih.1 ih.2
    exact ⟨here, foundInside_cons ih.2 here⟩

end Reading

section Documents

variable {root after : Value} {old : Option Value}

theorem set_of_split {parts : List String} (split : segments? path = some parts) :
    set root path new = writeHere new path parts root := by
  obtain ⟨segment, rest, rfl, _⟩ := segments?_eq_some split
  rw [set, segments, split]
  rfl

theorem set_of_unsplit (split : segments? path = none) :
    set root path new = .error (.invalid path) := by
  rw [set, segments, split]
  rfl

theorem get_of_set (wrote : set root path new = .ok (after, old)) : get after path = some new := by
  cases split : segments? path with
  | none => simp [set_of_unsplit split] at wrote
  | some parts =>
    rw [set_of_split split] at wrote
    simpa [get, split] using (found_after_write parts).1 root after old wrote

theorem edit_eq_landed (root : Value) (path : String) (new : Value) :
    edit root path new = landed root (set root path new) := by
  cases split : segments? path with
  | none => simp [edit, segments, split, set_of_unsplit, landed]
  | some parts =>
    rw [set_of_split split, edit, segments, split]
    obtain ⟨segment, rest, rfl, _⟩ := segments?_eq_some split
    exact lands segment rest root

theorem edit_object (fields : Record) (path : String) (new : Value) :
    edit (.object fields) path new =
      ((editIn fields path new).1, .object (editIn fields path new).2) := by
  cases split : segments? path with
  | none => simp [edit, editIn, segments, split]
  | some parts =>
    obtain ⟨segment, rest, rfl, _⟩ := segments?_eq_some split
    simp [edit, editIn, segments, split, editValue]

-- A write in place that succeeds is read back, and one that fails leaves what it was given; it
-- comes to the same as the write of a new document.
theorem writes_are_atomic_and_read_back (root new : Value) (fields : Record) (path : String) :
    (match edit root path new with
      | (.ok old, after) => set root path new = .ok (after, old) ∧ get after path = some new
      | (.error e, after) => set root path new = .error e ∧ after = root) ∧
    (match editIn fields path new with
      | (.ok old, after) => setIn fields path new = .ok (after, old) ∧ getIn after path = some new
      | (.error e, after) => setIn fields path new = .error e ∧ after = fields) := by
  constructor
  · rw [edit_eq_landed]
    cases wrote : set root path new with
    | ok written => exact ⟨rfl, get_of_set wrote⟩
    | error e => exact ⟨rfl, rfl⟩
  · have same := edit_object fields path new
    rcases edited : editIn fields path new with ⟨answer, others⟩
    rw [edit_eq_landed, edited] at same
    cases wrote : set (.object fields) path new with
    | ok written =>
      rw [wrote] at same
      obtain ⟨after, old⟩ := written
      cases same
      exact ⟨by simp [setIn, wrote], get_of_set wrote⟩
    | error e =>
      rw [wrote] at same
      cases same
      exact ⟨by simp [setIn, wrote], rfl⟩

end Documents

end RecordSync.Path
