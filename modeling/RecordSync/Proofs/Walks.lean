import Mathlib.Data.List.Lex
import RecordSync.Document.Path

set_option autoImplicit false

namespace RecordSync.Path

theorem intercalate_cons (first : String) (rest : List String) :
    ".".intercalate (first :: rest) = rest.foldl extend first := by
  induction rest generalizing first with
  | nil => simp
  | cons segment rest ih =>
    rw [List.foldl_cons, ← ih, extend, String.intercalate_cons_append, String.intercalate_cons_cons]

structure Splits (path : String) (parts : List String) : Prop where
  nonempty : parts ≠ []
  undotted : ∀ part ∈ parts, '.' ∉ part.toList
  joined : ".".intercalate parts = path

theorem Splits.cut {path : String} {parts : List String} (splits : Splits path parts) :
    Text.cut '.' path.toList = parts.map String.toList := by
  have joined : path.toList = ['.'].intercalate (parts.map String.toList) := by
    rw [← splits.joined, String.toList_intercalate]
    rfl
  rw [Text.cut_eq_splitOn, joined, List.splitOn_intercalate]
  · simpa using splits.undotted
  · simpa using splits.nonempty

theorem splits_cut (path : String) :
    Splits path ((Text.cut '.' path.toList).map String.ofList) where
  nonempty := by simpa using Text.cut_ne_nil '.' path.toList
  undotted := by simpa using fun piece member => Text.not_mem_of_mem_cut member
  joined := by
    have joined : ['.'].intercalate (path.toList.splitOn '.') = path.toList :=
      List.intercalate_splitOn '.'
    rw [← Text.cut_eq_splitOn] at joined
    simpa [← String.toList_inj, Function.comp_def] using joined

theorem segments?_eq_some_iff {path : String} {parts : List String} :
    segments? path = some parts ↔ Splits path parts ∧ ∀ part ∈ parts, part ≠ "" := by
  have cut_iff : (Text.cut '.' path.toList).map String.ofList = parts ↔ Splits path parts := by
    constructor
    · rintro rfl
      exact splits_cut path
    · intro splits
      simp [splits.cut, Function.comp_def]
  have filled : parts.any String.isEmpty = false ↔ ∀ part ∈ parts, part ≠ "" := by
    simp
  rw [← cut_iff, ← filled, segments?]
  grind

theorem segments?_eq_some {name : String} {parts : List String}
    (run : segments? name = some parts) :
    ∃ first rest, parts = first :: rest ∧ rest.foldl extend first = name := by
  have splits := (segments?_eq_some_iff.1 run).1
  cases parts with
  | nil => exact absurd rfl splits.nonempty
  | cons first rest => exact ⟨first, rest, rfl, intercalate_cons first rest ▸ splits.joined⟩

-- A walk along segments. In an object some of them together are a key, in an array one of them is a
-- position; the route says how many each step takes.
inductive Walk : Value → List String → List Nat → Value → Prop
  | stop (v : Value) : Walk v [] [] v
  | key {fields : Record} {parts : List String} {n : Nat} {child v : Value} {route : List Nat}
      (taken : 0 < n) (within : n ≤ parts.length)
      (found : Keyed.get? (".".intercalate (parts.take n)) fields = some child)
      (onward : Walk child (parts.drop n) route v) : Walk (.object fields) parts (n :: route) v
  | position {items : List Value} {segment : String} {rest : List String} {i : Nat}
      {child v : Value} {route : List Nat} (index : Numeral.index? segment = some i)
      (found : items[i]? = some child) (onward : Walk child rest route v) :
      Walk (.array items) (segment :: rest) (1 :: route) v

-- Of two routes that part, the one with the longer step at that place comes first.
def Before : List Nat → List Nat → Prop := List.Lex (· > ·)

def First (walks : List Nat → Value → Prop) (v : Value) : Prop :=
  ∃ route, walks route v ∧
    ∀ other w, walks other w → other = route ∧ w = v ∨ Before route other

def Foremost (walks : List Nat → Value → Prop) (route : List Nat) (v : Value) : Prop :=
  walks route v ∧ ∀ other w, walks other w → other = route ∧ w = v ∨ Before route other

def Chosen (walks : List Nat → Value → Prop) : Option Value → Prop
  | some v => First walks v
  | none => ∀ route v, ¬ walks route v

theorem Before.asymm {route other : List Nat} (before : Before route other) :
    ¬ Before other route :=
  List.lex_asymm (fun longer => Nat.not_lt_of_gt longer) before

theorem First.unique {walks : List Nat → Value → Prop} {v w : Value} (first : First walks v)
    (second : First walks w) : v = w := by
  obtain ⟨route, walk, least⟩ := first
  obtain ⟨other, walk', least'⟩ := second
  rcases least other w walk' with ⟨_, same⟩ | before
  · exact same.symm
  · rcases least' route v walk with ⟨_, same⟩ | after
    · exact same
    · exact absurd after before.asymm

section Chosen

variable {walks later : List Nat → Value → Prop} {found second : Option Value} {route : List Nat}
  {v : Value}

theorem Foremost.step (foremost : Foremost walks route v) (n : Nat) :
    Foremost (fun route v => ∃ onward, walks onward v ∧ route = n :: onward) (n :: route) v := by
  obtain ⟨walk, least⟩ := foremost
  refine ⟨⟨route, walk, rfl⟩, ?_⟩
  rintro _ w ⟨onward, other, rfl⟩
  rcases least onward w other with ⟨rfl, rfl⟩ | before
  · exact Or.inl ⟨rfl, rfl⟩
  · exact Or.inr (List.Lex.cons before)

theorem Foremost.or_left (foremost : Foremost walks route v)
    (before : ∀ other w, later other w → Before route other) :
    Foremost (fun route v => walks route v ∨ later route v) route v := by
  refine ⟨Or.inl foremost.1, ?_⟩
  rintro other w (sooner | after)
  · exact foremost.2 other w sooner
  · exact Or.inr (before other w after)

theorem Foremost.or_right (none : ∀ other w, ¬ walks other w) (foremost : Foremost later route v) :
    Foremost (fun route v => walks route v ∨ later route v) route v :=
  ⟨Or.inr foremost.1, fun other w either => foremost.2 other w (either.resolve_left (none other w))⟩

theorem Foremost.congr {others : List Nat → Value → Prop} (foremost : Foremost walks route v)
    (same : ∀ route v, others route v ↔ walks route v) : Foremost others route v :=
  ⟨(same route v).2 foremost.1, fun other w walk => foremost.2 other w ((same other w).1 walk)⟩

theorem Chosen.congr {others : List Nat → Value → Prop} (chosen : Chosen walks found)
    (same : ∀ route v, others route v ↔ walks route v) : Chosen others found := by
  obtain rfl : others = walks := funext fun route => funext fun v => propext (same route v)
  exact chosen

theorem Chosen.step (chosen : Chosen walks found) (n : Nat) :
    Chosen (fun route v => ∃ onward, walks onward v ∧ route = n :: onward) found := by
  cases found with
  | none =>
    rintro _ v ⟨onward, walk, rfl⟩
    exact chosen onward v walk
  | some v =>
    obtain ⟨route, foremost⟩ := chosen
    exact ⟨n :: route, Foremost.step foremost n⟩

theorem Chosen.or (chosen : Chosen walks found) (last : Chosen later second)
    (before : ∀ route v other w, walks route v → later other w → Before route other) :
    Chosen (fun route v => walks route v ∨ later route v) (found.or second) := by
  cases found with
  | some v =>
    obtain ⟨route, foremost⟩ := chosen
    exact ⟨route, Foremost.or_left foremost fun other w => before route v other w foremost.1⟩
  | none => exact last.congr fun route v => or_iff_right (chosen route v)

theorem Chosen.eq_some_iff (chosen : Chosen walks found) (v : Value) :
    found = some v ↔ First walks v := by
  cases found with
  | none => exact iff_of_false nofun fun ⟨route, walk, _⟩ => chosen route v walk
  | some w =>
    rw [Option.some.injEq]
    refine ⟨?_, First.unique chosen⟩
    rintro rfl
    exact chosen

theorem Chosen.eq_none_iff (chosen : Chosen walks found) :
    found = none ↔ ∀ route v, ¬ walks route v := by
  cases found with
  | none => exact iff_of_true rfl chosen
  | some v =>
    obtain ⟨route, walk, _⟩ := chosen
    exact iff_of_false nofun fun none => none route v walk

end Chosen

variable {fields : Record} {items : List Value} {key segment : String} {rest : List String}
  {route : List Nat} {u v : Value}

-- Walks in an object whose first key was begun: `taken` segments are in it already, and it may take
-- up more of those that follow.
def KeyWalk (fields : Record) (key : String) (taken : Nat) (rest : List String) (route : List Nat)
    (v : Value) : Prop :=
  ∃ n ≤ rest.length, ∃ child onward,
    Keyed.get? ((rest.take n).foldl extend key) fields = some child ∧
    Walk child (rest.drop n) onward v ∧ route = (taken + n) :: onward

theorem walk_nil_iff : Walk u [] route v ↔ u = v ∧ route = [] := by
  constructor
  · intro walk
    cases walk with
    | stop => exact ⟨rfl, rfl⟩
    | key taken within => exact absurd within (Nat.not_le.2 taken)
  · rintro ⟨rfl, rfl⟩
    exact .stop u

theorem walk_object_iff :
    Walk (.object fields) (segment :: rest) route v ↔ KeyWalk fields segment 1 rest route v := by
  constructor
  · intro walk
    cases walk with
    | @key _ _ n child _ onward taken within found walk =>
      obtain ⟨n, rfl⟩ := Nat.exists_eq_add_one.2 taken
      rw [List.take_succ_cons, intercalate_cons] at found
      exact ⟨n, Nat.le_of_succ_le_succ within, child, onward, found, walk, by rw [Nat.add_comm]⟩
  · rintro ⟨n, within, child, onward, found, walk, rfl⟩
    rw [Nat.add_comm]
    refine .key (Nat.succ_pos n) (Nat.succ_le_succ within) ?_ walk
    rwa [List.take_succ_cons, intercalate_cons]

theorem walk_array_iff :
    Walk (.array items) (segment :: rest) route v ↔
      ∃ child, ((Numeral.index? segment).bind fun i => items[i]?) = some child ∧
        ∃ onward, Walk child rest onward v ∧ route = 1 :: onward := by
  constructor
  · intro walk
    cases walk with
    | position index found walk => exact ⟨_, by simp [index, found], _, walk, rfl⟩
  · rintro ⟨child, there, onward, walk, rfl⟩
    obtain ⟨i, index, found⟩ := Option.bind_eq_some_iff.1 there
    exact .position index found walk

theorem keyWalk_nil_iff {taken : Nat} :
    KeyWalk fields key taken [] route v ↔
      ∃ child, Keyed.get? key fields = some child ∧
        ∃ onward, Walk child [] onward v ∧ route = taken :: onward := by
  simp [KeyWalk]

theorem keyWalk_cons_iff {taken : Nat} :
    KeyWalk fields key taken (segment :: rest) route v ↔
      KeyWalk fields (extend key segment) (taken + 1) rest route v ∨
        ∃ child, Keyed.get? key fields = some child ∧
          ∃ onward, Walk child (segment :: rest) onward v ∧ route = taken :: onward := by
  constructor
  · rintro ⟨n, within, child, onward, found, walk, rfl⟩
    cases n with
    | zero => exact Or.inr ⟨child, found, onward, walk, rfl⟩
    | succ n =>
      exact Or.inl ⟨n, Nat.le_of_succ_le_succ within, child, onward, found, walk, by grind⟩
  · rintro (⟨n, within, child, onward, found, walk, rfl⟩ | ⟨child, found, onward, walk, rfl⟩)
    · exact ⟨n + 1, Nat.succ_le_succ within, child, onward, found, walk, by grind⟩
    · exact ⟨0, Nat.zero_le _, child, onward, found, walk, rfl⟩

namespace Cursor

theorem find_here_object :
    find (segment :: rest) (.here (.object fields)) = find rest (.inside fields segment) := by
  simp [find, steps, enter]

theorem find_here_array :
    find (segment :: rest) (.here (.array items)) =
      ((Numeral.index? segment).bind fun i => items[i]?).bind fun child =>
        find rest (.here child) := by
  simp only [find, steps, enter]
  cases Numeral.index? segment with
  | none => rfl
  | some i => cases found : items[i]? <;> simp [found]

theorem find_inside_cons :
    find (segment :: rest) (.inside fields key) =
      (find rest (.inside fields (extend key segment))).or
        ((Keyed.get? key fields).bind fun child => find (segment :: rest) (.here child)) := by
  simp only [find, steps, List.findSome?_cons]
  cases find rest (.inside fields (extend key segment)) with
  | some v => rfl
  | none => cases Keyed.get? key fields <;> rfl

theorem chosen_bind (there : Option Value) {segments : List String} (n : Nat)
    (chosen : ∀ child, Chosen (Walk child segments) (find segments (.here child))) :
    Chosen (fun route v => ∃ child, there = some child ∧
      ∃ onward, Walk child segments onward v ∧ route = n :: onward)
      (there.bind fun child => find segments (.here child)) := by
  cases there with
  | none => rintro route v ⟨_, ⟨⟩, _⟩
  | some child => simpa using (chosen child).step n

theorem chosen_find (segments : List String) :
    (∀ u, Chosen (Walk u segments) (find segments (.here u))) ∧
      ∀ fields key taken,
        Chosen (KeyWalk fields key taken segments) (find segments (.inside fields key)) := by
  induction segments with
  | nil =>
    have here (u : Value) : Chosen (Walk u []) (find [] (.here u)) := by
      refine ⟨[], .stop u, fun other w walk => ?_⟩
      obtain ⟨rfl, rfl⟩ := walk_nil_iff.1 walk
      exact Or.inl ⟨rfl, rfl⟩
    refine ⟨here, fun fields key taken => ?_⟩
    have inside := chosen_bind (Keyed.get? key fields) taken here
    have found : find [] (.inside fields key) = (Keyed.get? key fields).bind some := by
      simp [find, value?]
    rw [found]
    exact inside.congr fun route v => keyWalk_nil_iff
  | cons segment rest ih =>
    obtain ⟨ihHere, ihInside⟩ := ih
    have here (u : Value) :
        Chosen (Walk u (segment :: rest)) (find (segment :: rest) (.here u)) := by
      cases u with
      | object fields =>
        rw [find_here_object]
        exact (ihInside fields segment 1).congr fun route v => walk_object_iff
      | array items =>
        rw [find_here_array]
        exact (chosen_bind _ 1 ihHere).congr fun route v => walk_array_iff
      | _ => rintro route v ⟨⟩
    refine ⟨here, fun fields key taken => ?_⟩
    rw [find_inside_cons]
    have longer := ihInside fields (extend key segment) (taken + 1)
    refine (longer.or (chosen_bind _ taken here) ?_).congr fun route v => keyWalk_cons_iff
    -- A key that goes on has taken more segments than one that ends here.
    rintro _ v _ w ⟨n, _, _, _, _, _, rfl⟩ ⟨_, _, _, _, rfl⟩
    exact List.Lex.rel (by grind)

end Cursor

theorem chosen_get (root : Value) {path : String} {parts : List String}
    (split : segments? path = some parts) : Chosen (Walk root parts) (get root path) := by
  rw [get, split]
  exact (Cursor.chosen_find parts).1 root

-- A path leads to the end of the first walk along its pieces, if none of them is empty and there is
-- a walk at all.
theorem first_walk_is_read (root : Value) (path : String) :
    (∀ v, get root path = some v ↔ ∃ parts, Splits path parts ∧ (∀ part ∈ parts, part ≠ "") ∧
      First (Walk root parts) v) ∧
    (get root path = none ↔ ¬ ∃ parts route v, Splits path parts ∧ (∀ part ∈ parts, part ≠ "") ∧
      Walk root parts route v) := by
  simp only [← and_assoc, ← segments?_eq_some_iff]
  cases split : segments? path with
  | none => simp [get, split]
  | some parts =>
    have chosen := chosen_get root split
    simpa using ⟨chosen.eq_some_iff, chosen.eq_none_iff⟩

end RecordSync.Path
