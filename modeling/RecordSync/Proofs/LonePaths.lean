import RecordSync.Proofs.PathChanges

set_option autoImplicit false

namespace RecordSync.Path

-- A walk that ends at an element of an array which is not the last one.
inductive Followed : Value → List String → List Nat → Prop
  | element {items : List Value} {segment : String} {i : Nat}
      (index : Numeral.index? segment = some i) (more : i + 1 < items.length) :
      Followed (.array items) [segment] [1]
  | key {fields : Record} {parts : List String} {n : Nat} {child : Value} {route : List Nat}
      (taken : 0 < n) (within : n ≤ parts.length)
      (found : Keyed.get? (".".intercalate (parts.take n)) fields = some child)
      (onward : Followed child (parts.drop n) route) : Followed (.object fields) parts (n :: route)
  | position {items : List Value} {segment : String} {rest : List String} {i : Nat}
      {child : Value} {route : List Nat} (index : Numeral.index? segment = some i)
      (found : items[i]? = some child) (onward : Followed child rest route) :
      Followed (.array items) (segment :: rest) (1 :: route)

-- Besides the walk along a route another one leads along the same path, or an element follows on
-- the one at its end.
def Backed (root : Value) (parts : List String) (route : List Nat) : Prop :=
  (∃ other v, Walk root parts other v ∧ other ≠ route) ∨ Followed root parts route

-- A path with at most one walk along it, and nothing behind the value at its end.
def Lone (root : Value) (parts : List String) : Prop :=
  ∀ route v, Walk root parts route v → ¬ Backed root parts route

variable {fields : Record} {parts : List String} {route : List Nat} {root old : Value}
  {left : Option Value} {path : String}

theorem Followed.ne_nil (followed : Followed root parts route) : parts ≠ [] := by
  cases followed with
  | key taken within => exact List.ne_nil_of_length_pos (Nat.lt_of_lt_of_le taken within)
  | _ => exact List.cons_ne_nil _ _

theorem Undotted.eq_of_key_eq {m n : Nat} (undotted : Undotted parts) (taken : 0 < m)
    (within : m ≤ parts.length) (taken' : 0 < n) (within' : n ≤ parts.length)
    (same : ".".intercalate (parts.take m) = ".".intercalate (parts.take n)) : m = n := by
  have length := List.length_take_of_le within
  have length' := List.length_take_of_le within'
  have equal := (undotted.take m).eq_of_intercalate_eq (undotted.take n)
    (List.ne_nil_of_length_pos (by rwa [length])) (List.ne_nil_of_length_pos (by rwa [length']))
    same
  rw [← length, equal, length']

def LeadsOn (root : Value) (parts : List String) (route : List Nat) (left : Option Value) : Prop :=
  (∃ after other v, left = some after ∧ Walk after parts other v) ↔ Backed root parts route

theorem leadsOn_key {n : Nat} {child : Value} (distinct : Keyed.Distinct fields)
    (undotted : Undotted parts) (taken : 0 < n) (within : n ≤ parts.length)
    (here : Keyed.get? (".".intercalate (parts.take n)) fields = some child)
    (below : LeadsOn child (parts.drop n) route left) :
    LeadsOn (.object fields) parts (n :: route)
      (some (.object (Keyed.assign (".".intercalate (parts.take n)) left fields))) := by
  have more := List.ne_nil_of_length_pos (Nat.lt_of_lt_of_le taken within)
  -- A step under another key is there before and after.
  have kept {m : Nat} (other : m ≠ n) (taken' : 0 < m) (within' : m ≤ parts.length) :
      Keyed.get? (".".intercalate (parts.take m))
        (Keyed.assign (".".intercalate (parts.take n)) left fields) =
      Keyed.get? (".".intercalate (parts.take m)) fields :=
    Keyed.get?_assign_ne (mt (undotted.eq_of_key_eq taken' within' taken within) other) _ _
  have changed := Keyed.get?_assign distinct (".".intercalate (parts.take n))
    (".".intercalate (parts.take n)) left
  rw [if_pos rfl] at changed
  constructor
  · rintro ⟨_, other, v, ⟨⟩, walk⟩
    obtain ⟨m, child', onward, taken', within', found, walk', rfl⟩ := (walk_key_iff more).1 walk
    by_cases same : m = n
    · subst same
      rcases below.1 ⟨child', onward, v, changed.symm.trans found, walk'⟩ with
        ⟨other, w, walk, differ⟩ | followed
      · exact Or.inl ⟨m :: other, w, .key taken within here walk, by simpa using differ⟩
      · exact Or.inr (.key taken within here followed)
    · rw [kept same taken' within'] at found
      exact Or.inl ⟨m :: onward, v, .key taken' within' found walk', by simp [same]⟩
  · have through (backed : Backed child (parts.drop n) route) : ∃ other v, Walk (.object
        (Keyed.assign (".".intercalate (parts.take n)) left fields)) parts other v := by
      obtain ⟨after, other, v, rfl, walk⟩ := below.2 backed
      exact ⟨n :: other, v, .key taken within changed walk⟩
    rintro (⟨other, v, walk, differ⟩ | followed)
    · obtain ⟨m, child', onward, taken', within', found, walk', rfl⟩ := (walk_key_iff more).1 walk
      by_cases same : m = n
      · subst same
        obtain rfl : child = child' := by simpa [here] using found
        obtain ⟨other, w, walk⟩ := through (Or.inl ⟨onward, v, walk', by simpa using differ⟩)
        exact ⟨_, other, w, rfl, walk⟩
      · rw [← kept same taken' within'] at found
        exact ⟨_, m :: onward, v, rfl, .key taken' within' found walk'⟩
    · cases followed with
      | @key _ _ _ child' _ _ _ found followed =>
        obtain rfl : child = child' := by simpa [here] using found
        obtain ⟨other, w, walk⟩ := through (Or.inr followed)
        exact ⟨_, other, w, rfl, walk⟩

theorem leadsOn_position {before later : List Value} {segment : String} {rest : List String}
    {child : Value} (index : Numeral.index? segment = some before.length)
    (onward : Removal child rest route old left) (below : LeadsOn child rest route left) :
    LeadsOn (.array (before ++ child :: later)) (segment :: rest) (1 :: route)
      (some (.array (before ++ left.toList ++ later))) := by
  have walk_iff {items : List Value} {other : List Nat} {v : Value} :
      Walk (.array items) (segment :: rest) other v ↔ ∃ child, items[before.length]? = some child ∧
        ∃ onward, Walk child rest onward v ∧ other = 1 :: onward := by
    rw [walk_array_iff, index]
    rfl
  constructor
  · rintro ⟨_, other, v, ⟨⟩, walk⟩
    obtain ⟨child', there, onward', walk, rfl⟩ := walk_iff.1 walk
    cases left with
    | none =>
      -- The next element is at the place now.
      obtain rfl := onward.left_eq_none_iff.1 rfl
      cases onward
      have more : later ≠ [] := by
        rintro rfl
        simp at there
      exact Or.inr (.element index (by simpa using List.length_pos_iff.2 more))
    | some after =>
      obtain rfl : after = child' := by simpa using there
      rcases below.1 ⟨after, onward', v, rfl, walk⟩ with ⟨other, w, walk, differ⟩ | followed
      · exact Or.inl ⟨1 :: other, w, .position index (by simp) walk, by simpa using differ⟩
      · exact Or.inr (.position index (by simp) followed)
  · have through (backed : Backed child rest route) : ∃ other v, Walk
        (.array (before ++ left.toList ++ later)) (segment :: rest) other v := by
      obtain ⟨after, other, v, rfl, walk⟩ := below.2 backed
      exact ⟨1 :: other, v, .position index (by simp) walk⟩
    rintro (⟨other, v, walk, differ⟩ | followed)
    · obtain ⟨child', there, onward', walk, rfl⟩ := walk_iff.1 walk
      obtain rfl : child = child' := by simpa using there
      obtain ⟨other, w, walk⟩ := through (Or.inl ⟨onward', v, walk, by simpa using differ⟩)
      exact ⟨_, other, w, rfl, walk⟩
    · cases followed with
      | element index' more =>
        obtain rfl := onward.left_eq_none_iff.2 rfl
        obtain rfl : before.length = _ := Option.some.inj (index.symm.trans index')
        cases later with
        | nil => simp at more
        | cons next later => exact ⟨_, [1], next, rfl, .position index (by simp) (.stop next)⟩
      | position index' there followed =>
        obtain rfl : before.length = _ := Option.some.inj (index.symm.trans index')
        obtain rfl : child = _ := by simpa using there
        obtain ⟨other, w, walk⟩ := through (Or.inr followed)
        exact ⟨_, other, w, rfl, walk⟩

theorem Removal.leadsOn (removal : Removal root parts route old left) (keyed : root.WellKeyed)
    (undotted : Undotted parts) : LeadsOn root parts route left := by
  induction removal with
  | stop u =>
    refine iff_of_false nofun ?_
    rintro (⟨other, v, walk, differ⟩ | followed)
    · exact differ (walk_nil_iff.1 walk).2
    · exact followed.ne_nil rfl
  | @key before later parts n child old route left taken within fresh _ ih =>
    have here := @Keyed.get?_split _ _ _ later fresh child
    rw [← Keyed.assign_split fresh child]
    exact leadsOn_key keyed.1 undotted taken within here
      (ih (Record.WellKeyed.get? keyed here) (undotted.drop n))
  | @position before later segment rest child old route left index onward ih =>
    have member : child ∈ before ++ child :: later := by simp
    exact leadsOn_position index onward
      (ih ((Value.wellKeyed_array_iff _).1 keyed child member) (undotted.drop 1))

theorem lone_iff (walk : Walk root parts route old) :
    Lone root parts ↔ ¬ Backed root parts route := by
  refine ⟨fun lone => lone route old walk, fun free other v second => ?_⟩
  have only : other = route := by_contra fun differ => free (Or.inl ⟨other, v, second, differ⟩)
  exact only ▸ free

theorem getIn_removeIn_eq_none_iff (keyed : Record.WellKeyed fields) (path : String) :
    getIn (removeIn fields path).1 path = none ↔
      ∀ parts, segments? path = some parts → Lone (.object fields) parts := by
  rw [getIn, object_removeIn]
  cases split : segments? path with
  | none => simp [get, split]
  | some parts =>
    rw [(chosen_get _ split).eq_none_iff]
    simp only [Option.some.injEq, forall_eq']
    cases run : remove? (.object fields) path with
    | none =>
      have unread := (chosen_get (.object fields) split).eq_none_iff.1
        ((remove?_eq_none_iff _ path).1 run)
      refine iff_of_true ?_ fun route v walk => absurd walk (unread route v)
      simpa [remove, run] using unread
    | some found =>
      obtain ⟨after, old⟩ := found
      obtain ⟨parts, route, same, removal, _⟩ := removal_of_remove? run
      obtain rfl := Option.some.inj (split.symm.trans same)
      have leads := removal.leadsOn keyed (undotted_of_segments? split)
      rw [LeadsOn] at leads
      rw [remove, run, lone_iff removal.walk, ← leads]
      simp

end RecordSync.Path
