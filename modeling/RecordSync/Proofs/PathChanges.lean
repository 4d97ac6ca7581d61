import RecordSync.Proofs.PathRemovals
import RecordSync.Proofs.PathWrites

set_option autoImplicit false

namespace RecordSync

namespace Keyed

variable {α : Type}

theorem get?_assign_ne {key other : String} (differ : other ≠ key) (value : Option α)
    (xs : Keyed α) : get? other (assign key value xs) = get? other xs := by
  cases value with
  | none => exact get?_erase_ne key other differ xs
  | some v => rw [assign, get?_insert, if_neg differ]

theorem filter_assign {p : String × α → Bool} {key : String} (off : ∀ v, p (key, v) = false)
    (value : Option α) (xs : Keyed α) : (assign key value xs).filter p = xs.filter p := by
  induction xs with
  | nil => cases value <;> simp [assign, insert, erase, off]
  | cons x rest ih =>
    obtain ⟨k, v⟩ := x
    by_cases same : k = key
    · subst same
      cases value <;> simp [assign, insert, erase, off]
    · cases value with
      | none =>
        rw [assign] at ih ⊢
        simp [erase, same, List.filter_cons, ih]
      | some w =>
        rw [assign] at ih ⊢
        simp [insert, same, List.filter_cons, ih]

end Keyed

namespace Path

-- What a document can become by a change along a path: a value is put at its end, or with none to
-- put, what is there is taken away. Objects that are missing on the way are made.
inductive Edits (put : Option Value) : List String → Value → Value → Prop
  | entry {fields : Record} {parts : List String} (more : parts ≠ []) :
      Edits put parts (.object fields)
        (.object (Keyed.assign (".".intercalate parts) put fields))
  | key {fields : Record} {parts : List String} {n : Nat} {child after : Value} (taken : 0 < n)
      (leaves : n < parts.length)
      (found : Keyed.get? (".".intercalate (parts.take n)) fields = some child)
      (onward : Edits put (parts.drop n) child after) :
      Edits put parts (.object fields)
        (.object (Keyed.insert (".".intercalate (parts.take n)) after fields))
  | made {fields : Record} {segment : String} {rest : List String} {new : Value}
      (value : put = some new) (absent : Keyed.get? segment fields = none) :
      Edits put (segment :: rest) (.object fields)
        (.object (Keyed.insert segment (nest new rest) fields))
  | element {items others : List Value} {segment : String} {i : Nat}
      (index : Numeral.index? segment = some i) (below : ∀ k < i, others[k]? = items[k]?)
      (kept : ∀ item ∈ others, item ∈ items ∨ put = some item) :
      Edits put [segment] (.array items) (.array others)
  | position {items : List Value} {segment : String} {rest : List String} {i : Nat}
      {child after : Value} (index : Numeral.index? segment = some i)
      (found : items[i]? = some child) (onward : Edits put rest child after) :
      Edits put (segment :: rest) (.array items) (.array (items.set i after))

section Changes

variable {fields : Record} {items : List Value} {parts rest : List String} {segment path : String}
  {route : List Nat} {root old new after : Value} {left previous : Option Value}

theorem Removal.left_eq_none_iff (removal : Removal root parts route old left) :
    left = none ↔ parts = [] := by
  cases removal with
  | stop => simp
  | key taken within =>
    exact iff_of_false nofun (List.ne_nil_of_length_pos (Nat.lt_of_lt_of_le taken within))
  | position => simp

theorem Removal.edits (removal : Removal root parts route old (some after)) :
    Edits none parts root after := by
  generalize kept : some after = left at removal
  induction removal generalizing after with
  | stop => cases kept
  | @key before later parts n child old route left taken within fresh onward ih =>
    cases kept
    rw [← Keyed.assign_split fresh child]
    have ends := onward.left_eq_none_iff
    cases left with
    | none =>
      have whole : n = parts.length :=
        Nat.le_antisymm within (List.drop_eq_nil_iff.1 (ends.1 rfl))
      subst whole
      rw [List.take_length]
      exact .entry (List.ne_nil_of_length_pos taken)
    | some below =>
      have leaves : n < parts.length := by
        have more := mt ends.2 nofun
        rw [List.drop_eq_nil_iff] at more
        exact Nat.not_le.1 more
      exact .key taken leaves (Keyed.get?_split fresh child) (ih rfl)
  | @position before later segment rest child old route left index onward ih =>
    cases kept
    cases left with
    | none =>
      obtain rfl := onward.left_eq_none_iff.1 rfl
      refine .element index (fun k less => ?_) (by simp; grind)
      simp [List.getElem?_append_left less]
    | some below =>
      have edits : Edits none (segment :: rest) (.array (before ++ child :: later))
          (.array ((before ++ child :: later).set before.length below)) :=
        .position index (by simp) (ih rfl)
      simpa using edits

def Puts (new : Value) (path : String) (parts : List String) (root : Value) : Prop :=
  ∀ after previous, writeHere new path parts root = .ok (after, previous) →
    Edits (some new) parts root after

theorem puts_object (more : parts ≠ [])
    (onward : ∀ n child, 0 < n → n < parts.length → Puts new path (parts.drop n) child) :
    Puts new path parts (.object fields) := by
  obtain ⟨segment, rest, rfl⟩ := List.exists_cons_of_ne_nil more
  intro after previous wrote
  rw [writeHere, writeFrom, write_inside, ← intercalate_cons] at wrote
  cases whole : Keyed.get? (".".intercalate (segment :: rest)) fields with
  | some found =>
    simp only [whole] at wrote
    cases wrote
    exact .entry more
  | none =>
    simp only [whole] at wrote
    cases run : through? fields segment rest with
    | some longest =>
      obtain ⟨key, child, left⟩ := longest
      obtain ⟨n, through, rfl, rfl⟩ := through_of_through? run
      simp only [run, Option.map_some] at wrote
      obtain ⟨⟨below, _⟩, inside, same⟩ := Except.map_eq_ok wrote
      cases same
      exact .key through.taken through.leaves through.found
        (onward n child through.taken through.leaves below _ inside)
    | none =>
      simp only [run, Option.map_none] at wrote
      split at wrote
      · cases wrote
      · rename_i free
        cases wrote
        refine .made rfl ?_
        cases rest with
        | nil => simpa using whole
        | cons => simpa [Keyed.contains] using free

theorem puts_array (onward : ∀ child, rest ≠ [] → Puts new path rest child) :
    Puts new path (segment :: rest) (.array items) := by
  intro after previous wrote
  rw [writeHere_array] at wrote
  cases index : Numeral.index? segment with
  | none => simp [index] at wrote
  | some i =>
    cases there : items[i]? with
    | some child =>
      simp only [index, there] at wrote
      obtain ⟨⟨below, _⟩, inside, same⟩ := Except.map_eq_ok wrote
      cases same
      cases rest with
      | nil =>
        cases inside
        refine .element index (fun k less => List.getElem?_set_ne (Nat.ne_of_gt less))
          fun item member => ?_
        rcases List.mem_or_eq_of_mem_set member with kept | rfl
        · exact Or.inl kept
        · exact Or.inr rfl
      | cons next rest =>
        exact .position index there (onward child (List.cons_ne_nil _ _) below _ inside)
    | none =>
      simp only [index, there] at wrote
      split at wrote
      · rename_i last
        obtain ⟨rfl, rfl⟩ := last
        cases wrote
        refine .element index (fun k less => List.getElem?_append_left less) fun item member => ?_
        simpa [eq_comm] using member
      · cases wrote

theorem puts (parts : List String) (root : Value) (more : parts ≠ []) :
    Puts new path parts root := by
  induction length : parts.length using Nat.strongRecOn generalizing parts root with
  | ind size ih =>
    subst length
    obtain ⟨segment, rest, rfl⟩ := List.exists_cons_of_ne_nil more
    cases root with
    | object fields =>
      refine puts_object more fun n child taken leaves => ?_
      exact ih _ (by rw [List.length_drop]; omega) _ child (by simpa using leaves) rfl
    | array items => exact puts_array fun child more => ih rest.length (by simp) rest child more rfl
    | _ => rintro after previous ⟨⟩

end Changes

def Undotted (parts : List String) : Prop := ∀ part ∈ parts, '.' ∉ part.toList

-- A path that parts at some segment from another one, along which a change may be. Where both could
-- be positions in an array, they are two different ones, and a change at the end of the other path
-- does not move what is behind it.
inductive Parted : List String → List String → Prop
  | here {segment other : String} {rest others : List String} (differ : segment ≠ other)
      (positions : ∀ i j, Numeral.index? segment = some i → Numeral.index? other = some j →
        i ≠ j ∧ (others = [] → i < j)) : Parted (segment :: rest) (other :: others)
  | later {segment : String} {rest others : List String} (parted : Parted rest others) :
      Parted (segment :: rest) (segment :: others)

section Parting

variable {put : Option Value} {fields record : Record} {parts others : List String}
  {route : List Nat} {root before after v : Value} {m n : Nat}

theorem Undotted.take (undotted : Undotted parts) (n : Nat) : Undotted (parts.take n) :=
  fun part member => undotted part (List.mem_of_mem_take member)

theorem Undotted.drop (undotted : Undotted parts) (n : Nat) : Undotted (parts.drop n) :=
  fun part member => undotted part (List.mem_of_mem_drop member)

theorem undotted_of_segments? {path : String} (split : segments? path = some parts) :
    Undotted parts :=
  (segments?_eq_some_iff.1 split).1.undotted

theorem Undotted.eq_of_intercalate_eq (undotted : Undotted parts) (undotted' : Undotted others)
    (more : parts ≠ []) (more' : others ≠ [])
    (same : ".".intercalate parts = ".".intercalate others) : parts = others := by
  have cut := Splits.cut ⟨more, undotted, rfl⟩
  rw [same, Splits.cut ⟨more', undotted', rfl⟩] at cut
  have injective : Function.Injective String.toList := fun _ _ => String.toList_injective
  exact (List.map_injective_iff.2 injective cut).symm

theorem Parted.ne_nil (parted : Parted parts others) : parts ≠ [] := by
  cases parted <;> exact List.cons_ne_nil _ _

theorem Parted.drop (parted : Parted parts others) (within : m ≤ parts.length)
    (within' : n ≤ others.length) (same : parts.take m = others.take n) :
    m = n ∧ n < others.length ∧ Parted (parts.drop n) (others.drop n) := by
  obtain rfl : m = n := by
    have lengths := congrArg List.length same
    rwa [List.length_take_of_le within, List.length_take_of_le within'] at lengths
  refine ⟨rfl, ?_⟩
  clear within within'
  induction parted generalizing m with
  | here differ positions =>
    cases m with
    | zero => exact ⟨Nat.succ_pos _, .here differ positions⟩
    | succ m => exact absurd (List.cons.inj same).1 differ
  | later parted ih =>
    cases m with
    | zero => exact ⟨Nat.succ_pos _, parted.later⟩
    | succ m =>
      obtain ⟨leaves, onward⟩ := ih (List.cons.inj same).2
      exact ⟨Nat.succ_lt_succ leaves, onward⟩

theorem walk_key_iff (more : parts ≠ []) :
    Walk (.object fields) parts route v ↔ ∃ n child onward, 0 < n ∧ n ≤ parts.length ∧
      Keyed.get? (".".intercalate (parts.take n)) fields = some child ∧
      Walk child (parts.drop n) onward v ∧ route = n :: onward := by
  constructor
  · intro walk
    cases walk with
    | stop => exact absurd rfl more
    | key taken within found onward => exact ⟨_, _, _, taken, within, found, onward, rfl⟩
  · rintro ⟨n, child, onward, taken, within, found, walk, rfl⟩
    exact .key taken within found walk

theorem walk_assign_iff (parted : Parted parts others) (undotted : Undotted parts)
    (undotted' : Undotted others) {value : Option Value} (taken : 0 < n)
    (within : n ≤ others.length)
    (same : n < others.length → Parted (parts.drop n) (others.drop n) → ∃ new, value = some new ∧
      ∀ onward, Walk new (parts.drop n) onward v ↔
        ∃ child, Keyed.get? (".".intercalate (others.take n)) fields = some child ∧
          Walk child (parts.drop n) onward v) :
    Walk (.object (Keyed.assign (".".intercalate (others.take n)) value fields)) parts route v ↔
      Walk (.object fields) parts route v := by
  have through (m : Nat) (taken' : 0 < m) (within' : m ≤ parts.length) (onward : List Nat) :
      (∃ child, Keyed.get? (".".intercalate (parts.take m))
          (Keyed.assign (".".intercalate (others.take n)) value fields) = some child ∧
        Walk child (parts.drop m) onward v) ↔
      ∃ child, Keyed.get? (".".intercalate (parts.take m)) fields = some child ∧
        Walk child (parts.drop m) onward v := by
    by_cases meets : ".".intercalate (parts.take m) = ".".intercalate (others.take n)
    · have filled : parts.take m ≠ [] :=
        List.ne_nil_of_length_pos (by rwa [List.length_take_of_le within'])
      have filled' : others.take n ≠ [] :=
        List.ne_nil_of_length_pos (by rwa [List.length_take_of_le within])
      have heads := (undotted.take m).eq_of_intercalate_eq (undotted'.take n) filled filled'
        meets
      obtain ⟨rfl, leaves, onwards⟩ := parted.drop within' within heads
      obtain ⟨new, rfl, walks⟩ := same leaves onwards
      rw [meets, ← walks onward, Keyed.assign, Keyed.get?_insert_self]
      simp
    · rw [Keyed.get?_assign_ne meets]
  rw [walk_key_iff parted.ne_nil, walk_key_iff parted.ne_nil]
  constructor
  · rintro ⟨m, child, onward, taken, within, found, walk, rfl⟩
    obtain ⟨child, found, walk⟩ := (through m taken within onward).1 ⟨child, found, walk⟩
    exact ⟨m, child, onward, taken, within, found, walk, rfl⟩
  · rintro ⟨m, child, onward, taken, within, found, walk, rfl⟩
    obtain ⟨child, found, walk⟩ := (through m taken within onward).2 ⟨child, found, walk⟩
    exact ⟨m, child, onward, taken, within, found, walk, rfl⟩

theorem walk_iff_of_same_element {items others : List Value} {segment : String}
    {rest : List String}
    (same : ∀ i, Numeral.index? segment = some i → others[i]? = items[i]?) :
    Walk (.array others) (segment :: rest) route v ↔
      Walk (.array items) (segment :: rest) route v := by
  have there : ((Numeral.index? segment).bind fun i => others[i]?) =
      (Numeral.index? segment).bind fun i => items[i]? := by
    cases index : Numeral.index? segment with
    | none => rfl
    | some i => exact same i index
  rw [walk_array_iff, walk_array_iff, there]

theorem not_walk_nest {new : Value} (parted : Parted parts others) (undotted : Undotted parts)
    (undotted' : Undotted others) : ¬ Walk (nest new others) parts route v := by
  induction others generalizing parts route with
  | nil => cases parted
  | cons segment rest ih =>
    intro walk
    have one : segment = ".".intercalate ((segment :: rest).take 1) := by simp
    have made : nest new (segment :: rest) = .object (Keyed.assign
        (".".intercalate ((segment :: rest).take 1)) (some (nest new rest)) []) := by
      rw [← one]
      rfl
    rw [made, walk_assign_iff parted undotted undotted' Nat.one_pos (Nat.succ_pos _)] at walk
    · obtain ⟨_, _, _, _, _, found, _⟩ := (walk_key_iff parted.ne_nil).1 walk
      cases found
    · intro _ onwards
      refine ⟨_, rfl, fun onward => iff_of_false ?_ (by simp)⟩
      exact ih onwards (undotted.drop 1) (undotted'.drop 1)

theorem Edits.walk_iff (edits : Edits put others before after) (parted : Parted parts others)
    (undotted : Undotted parts) (undotted' : Undotted others) :
    Walk after parts route v ↔ Walk before parts route v := by
  induction edits generalizing parts route with
  | @entry fields others more =>
    have whole : Walk (.object (Keyed.assign (".".intercalate (others.take others.length)) put
        fields)) parts route v ↔ Walk (.object fields) parts route v :=
      walk_assign_iff parted undotted undotted' (List.length_pos_iff.2 more) (Nat.le_refl _)
        fun less => absurd less (Nat.lt_irrefl _)
    rwa [List.take_length] at whole
  | @key fields others n child after taken leaves found _ ih =>
    show Walk (.object (Keyed.assign _ (some after) fields)) parts route v ↔ _
    refine walk_assign_iff parted undotted undotted' taken (Nat.le_of_lt leaves) fun _ onwards => ?_
    refine ⟨after, rfl, fun onward => ?_⟩
    rw [ih onwards (undotted.drop n) (undotted'.drop n), found]
    simp
  | @made fields segment rest new value absent =>
    have first : Walk (.object (Keyed.assign (".".intercalate ((segment :: rest).take 1))
        (some (nest new rest)) fields)) parts route v ↔ Walk (.object fields) parts route v := by
      refine walk_assign_iff parted undotted undotted' Nat.one_pos (Nat.succ_pos _)
        fun _ onwards => ⟨_, rfl, fun onward => iff_of_false ?_ (by simp [absent])⟩
      exact not_walk_nest onwards (undotted.drop 1) (undotted'.drop 1)
    rwa [List.take_succ_cons, List.take_zero, String.intercalate_singleton] at first
  | @element items others other j index below kept =>
    cases parted with
    | @here segment _ rest _ differ positions =>
      refine walk_iff_of_same_element fun i index' => below i ?_
      exact (positions i j index' index).2 rfl
    | later parted => cases parted
  | @position items segment rest i child after index found _ ih =>
    cases parted with
    | here differ positions =>
      refine walk_iff_of_same_element fun j index' => List.getElem?_set_ne ?_
      exact (positions j i index' index).1.symm
    | @later _ parts _ onwards =>
      obtain ⟨within, rfl⟩ := List.getElem?_eq_some_iff.1 found
      have same (onward : List Nat) : Walk after parts onward v ↔ Walk items[i] parts onward v :=
        ih onwards (undotted.drop 1) (undotted'.drop 1)
      simp [walk_array_iff, index, within, same]

end Parting

section Records

variable {put : Option Value} {fields others : Record} {parts : List String} {path : String}
  {before after new : Value} {previous : Option Value}

theorem Edits.filter_eq (edits : Edits put parts (.object fields) (.object others))
    {p : String × Value → Bool}
    (off : ∀ n v, 0 < n → n ≤ parts.length → p (".".intercalate (parts.take n), v) = false) :
    others.filter p = fields.filter p := by
  cases edits with
  | entry more =>
    refine Keyed.filter_assign (fun v => ?_) put fields
    simpa using off parts.length v (List.length_pos_iff.2 more) (Nat.le_refl _)
  | @key _ _ n _ after taken leaves =>
    exact Keyed.filter_assign (fun v => off n v taken (Nat.le_of_lt leaves)) (some after) fields
  | @made _ segment rest new =>
    refine Keyed.filter_assign (fun v => ?_) (some (nest new rest)) fields
    simpa using off 1 v Nat.one_pos (Nat.succ_pos _)

theorem wellKeyed_nest (keyed : new.WellKeyed) (segments : List String) :
    (nest new segments).WellKeyed := by
  induction segments with
  | nil => exact keyed
  | cons segment rest ih => exact Record.WellKeyed.single ih

theorem Edits.wellKeyed (edits : Edits put parts before after)
    (keyed : before.WellKeyed) (new : ∀ v, put = some v → v.WellKeyed) : after.WellKeyed := by
  induction edits with
  | entry more => exact Record.WellKeyed.assign keyed _ new
  | @key fields parts n child after taken leaves found _ ih =>
    show Record.WellKeyed (Keyed.assign _ (some after) fields)
    refine Record.WellKeyed.assign keyed _ ?_
    rintro _ ⟨⟩
    exact ih (Record.WellKeyed.get? keyed found)
  | @made fields segment rest w value absent =>
    show Record.WellKeyed (Keyed.assign segment (some (nest w rest)) fields)
    refine Record.WellKeyed.assign keyed segment ?_
    rintro _ ⟨⟩
    exact wellKeyed_nest (new w value) rest
  | element index below kept =>
    rw [Value.wellKeyed_array_iff] at keyed ⊢
    intro item member
    exact (kept item member).elim (keyed item) (new item)
  | position index found _ ih =>
    rw [Value.wellKeyed_array_iff] at keyed ⊢
    intro item member
    rcases List.mem_or_eq_of_mem_set member with before | rfl
    · exact keyed item before
    · exact ih (keyed _ (List.mem_of_getElem? found))

theorem Edits.exists_object (edits : Edits put parts (.object fields) after) :
    ∃ others, after = .object others := by
  cases edits <;> exact ⟨_, rfl⟩

theorem edits_of_setIn (wrote : setIn fields path new = .ok (others, previous)) :
    ∃ parts, segments? path = some parts ∧
      Edits (some new) parts (.object fields) (.object others) := by
  unfold setIn at wrote
  cases written : set (.object fields) path new with
  | error e => simp [written] at wrote
  | ok found =>
    obtain ⟨after, old⟩ := found
    cases split : segments? path with
    | none => simp [set_of_unsplit split] at written
    | some parts =>
      obtain ⟨segment, rest, rfl, _⟩ := segments?_eq_some split
      rw [set_of_split split] at written
      have edits := puts _ _ (List.cons_ne_nil segment rest) after old written
      obtain ⟨record, rfl⟩ := edits.exists_object
      rw [set_of_split split, written] at wrote
      cases wrote
      exact ⟨_, rfl, edits⟩

theorem object_removeIn (fields : Record) (path : String) :
    .object (removeIn fields path).1 = (remove (.object fields) path).1 := by
  rw [removeIn, remove]
  cases run : remove? (.object fields) path with
  | none => rfl
  | some found =>
    obtain ⟨after, old⟩ := found
    obtain ⟨parts, route, _, removal, _⟩ := removal_of_remove? run
    obtain ⟨others, rfl⟩ := removal.edits.exists_object
    rfl

theorem removeIn_eq_or_edits (fields : Record) (path : String) :
    (removeIn fields path).1 = fields ∨ ∃ parts, segments? path = some parts ∧
      Edits none parts (.object fields) (.object (removeIn fields path).1) := by
  rw [object_removeIn]
  cases run : remove? (.object fields) path with
  | none => exact Or.inl (by simp [removeIn, remove, run])
  | some found =>
    obtain ⟨after, old⟩ := found
    obtain ⟨parts, route, split, removal, _⟩ := removal_of_remove? run
    exact Or.inr ⟨parts, split, by simpa [remove, run] using removal.edits⟩

def Apart (path other : String) : Prop :=
  ∀ parts others, segments? path = some parts → segments? other = some others → Parted parts others

theorem Edits.getIn_eq {other : String} (edits : Edits put parts (.object fields) (.object others))
    (split : segments? other = some parts) (apart : Apart path other) :
    getIn others path = getIn fields path := by
  cases mine : segments? path with
  | none => simp [getIn, get, mine]
  | some steps =>
    have same : Walk (.object others) steps = Walk (.object fields) steps :=
      funext fun route => funext fun v => propext (edits.walk_iff (apart steps parts mine split)
        (undotted_of_segments? mine) (undotted_of_segments? split))
    have chosen := chosen_get (.object others) mine
    rw [same] at chosen
    refine Option.ext fun v => ?_
    rw [getIn, getIn, chosen.eq_some_iff, (chosen_get (.object fields) mine).eq_some_iff]

end Records

end Path

end RecordSync
