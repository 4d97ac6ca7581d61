import RecordSync.Document.InPlace
import RecordSync.Proofs.Entries
import RecordSync.Proofs.Walks

set_option autoImplicit false

namespace RecordSync.Path

-- One value taken out at the end of a walk. Nothing is left of the value. An object or an array on
-- the way to it keeps all it holds, in order, except for the child that was walked through: what is
-- left of the child stands in its place, or the child is gone.
inductive Removal : Value → List String → List Nat → Value → Option Value → Prop
  | stop (v : Value) : Removal v [] [] v none
  | key {before later : Record} {parts : List String} {n : Nat} {child old : Value}
      {route : List Nat} {left : Option Value} (taken : 0 < n) (within : n ≤ parts.length)
      (fresh : ".".intercalate (parts.take n) ∉ Keyed.keys before)
      (onward : Removal child (parts.drop n) route old left) :
      Removal (.object (before ++ (".".intercalate (parts.take n), child) :: later)) parts
        (n :: route) old (some (.object
          (before ++ (left.map (Prod.mk (".".intercalate (parts.take n)))).toList ++ later)))
  | position {before later : List Value} {segment : String} {rest : List String}
      {child old : Value} {route : List Nat} {left : Option Value}
      (index : Numeral.index? segment = some before.length)
      (onward : Removal child rest route old left) :
      Removal (.array (before ++ child :: later)) (segment :: rest) (1 :: route) old
        (some (.array (before ++ left.toList ++ later)))

variable {fields others : Record} {items : List Value} {key segment : String}
  {rest parts : List String} {route : List Nat} {root old : Value} {left : Option Value}

theorem Removal.walk (removal : Removal root parts route old left) :
    Walk root parts route old := by
  induction removal with
  | stop v => exact .stop v
  | key taken within fresh _ ih => exact .key taken within (Keyed.get?_split fresh _) ih
  | position index _ ih => exact .position index (by simp) ih

def eraseHere : List String → Value → Option (Option Value × Value)
  | [], v => some (none, v)
  | segment :: rest, v =>
    (removeFrom segment rest (erase rest) v).map fun (after, old) => (some after, old)

theorem eraseHere_object :
    eraseHere (segment :: rest) (.object fields) =
      (erase rest (.inside fields segment)).map fun (after, old) => (some after, old) := rfl

theorem eraseHere_array :
    eraseHere (segment :: rest) (.array items) =
      (Numeral.index? segment).bind fun i => items[i]?.bind fun child =>
        (eraseHere rest child).map fun (left, old) =>
          (some (.array (items.take i ++ left.toList ++ items.drop (i + 1))), old) := by
  rw [eraseHere, removeFrom]
  cases Numeral.index? segment with
  | none => rfl
  | some i =>
    cases there : items[i]? with
    | none => simp [there]
    | some child =>
      cases rest with
      | nil => simp [there, eraseHere, List.eraseIdx_eq_take_drop_succ]
      | cons next rest =>
        have put (left : Value) :
            items.set i left = items.take i ++ (some left).toList ++ items.drop (i + 1) := by
          have within := (List.getElem?_eq_some_iff.1 there).1
          simp [List.set_eq_take_append_cons_drop, within]
        simp only [Option.bind_eq_bind, Option.bind_some, there, erase, eraseHere]
        cases removeFrom next rest (erase rest) child with
        | none => rfl
        | some erased => simp [put]

def eraseThrough (segments : List String) (fields : Record) (key : String) :
    Option (Value × Value) :=
  (Keyed.get? key fields).bind fun child => (eraseHere segments child).map fun (left, old) =>
    (.object (Keyed.assign key left fields), old)

theorem erase_inside_nil :
    erase [] (.inside fields key) = eraseThrough [] fields key := by
  rw [erase, eraseThrough]
  cases Keyed.get? key fields <;> rfl

theorem erase_inside_cons :
    erase (segment :: rest) (.inside fields key) =
      (erase rest (.inside fields (extend key segment))).or
        (eraseThrough (segment :: rest) fields key) := by
  rw [erase, eraseThrough]
  cases erase rest (.inside fields (extend key segment)) with
  | some erased => rfl
  | none =>
    cases Keyed.get? key fields with
    | none => rfl
    | some child =>
      simp only [eraseHere]
      cases erased : removeFrom segment rest (erase rest) child <;> simp [erased, Keyed.assign]

def Reads (segments : List String) : Prop :=
  (∀ u, (eraseHere segments u).map Prod.snd = Cursor.find segments (.here u)) ∧
    ∀ fields key,
      (erase segments (.inside fields key)).map Prod.snd = Cursor.find segments (.inside fields key)

theorem snd_eraseThrough {segments : List String}
    (here : ∀ u, (eraseHere segments u).map Prod.snd = Cursor.find segments (.here u)) :
    (eraseThrough segments fields key).map Prod.snd =
      (Keyed.get? key fields).bind fun child => Cursor.find segments (.here child) := by
  rw [eraseThrough]
  cases Keyed.get? key fields with
  | none => rfl
  | some child => simp [← here, Function.comp_def]

theorem reads (segments : List String) : Reads segments := by
  induction segments with
  | nil =>
    have here (u : Value) : (eraseHere [] u).map Prod.snd = Cursor.find [] (.here u) := rfl
    refine ⟨here, fun fields key => ?_⟩
    rw [erase_inside_nil, snd_eraseThrough here]
    cases found : Keyed.get? key fields <;> simp [Cursor.find, Cursor.value?, found]
  | cons segment rest ih =>
    obtain ⟨ihHere, ihInside⟩ := ih
    have here (u : Value) :
        (eraseHere (segment :: rest) u).map Prod.snd =
          Cursor.find (segment :: rest) (.here u) := by
      cases u with
      | object fields =>
        rw [eraseHere_object, Cursor.find_here_object, ← ihInside, Option.map_map]
        rfl
      | array items =>
        rw [eraseHere_array, Cursor.find_here_array]
        cases Numeral.index? segment with
        | none => rfl
        | some i =>
          cases there : items[i]? with
          | none => simp [there]
          | some child => simp [there, ← ihHere, Function.comp_def]
      | _ => rfl
    refine ⟨here, fun fields key => ?_⟩
    rw [erase_inside_cons, Cursor.find_inside_cons, ← ihInside, ← snd_eraseThrough here]
    cases erase rest (.inside fields (extend key segment)) <;> rfl

def pulled (node : Value) : Option (Value × Value) → Pulled Value
  | some (after, old) => (some old, after)
  | none => (none, node)

def Pulls (segments : List String) : Prop :=
  (∀ node, pullValue segments node = pulled node (erase segments (.here node))) ∧
    ∀ fields key,
      ((pullInside key segments fields).1, Value.object (pullInside key segments fields).2) =
        pulled (.object fields) (erase segments (.inside fields key))

theorem pulls (segments : List String) : Pulls segments := by
  induction segments with
  | nil =>
    refine ⟨fun node => by rw [pullValue]; rfl, fun fields key => ?_⟩
    rw [pullInside, erase]
    cases Keyed.get? key fields <;> rfl
  | cons segment rest ih =>
    obtain ⟨ihHere, ihInside⟩ := ih
    have here (node : Value) :
        pullValue (segment :: rest) node = pulled node (erase (segment :: rest) (.here node)) := by
      cases node with
      | object fields =>
        rw [pullValue]
        exact ihInside fields segment
      | array items =>
        rw [pullValue, erase, removeFrom]
        cases Numeral.index? segment with
        | none => rfl
        | some i =>
          cases there : items[i]? with
          | none => simp [there, pulled]
          | some child =>
            have back : items.set i child = items := by
              obtain ⟨within, rfl⟩ := List.getElem?_eq_some_iff.1 there
              exact List.set_getElem_self within
            by_cases last : rest = []
            · simp [there, last, pulled]
            · cases erased : erase rest (.here child) <;>
                simp [there, last, ihHere, erased, pulled, back]
      | _ => simp [pullValue, erase, removeFrom, pulled]
    refine ⟨here, fun fields key => ?_⟩
    have longer := ihInside fields (extend key segment)
    rw [pullInside, erase_inside_cons]
    generalize pullInside (extend key segment) rest fields = first at longer ⊢
    obtain ⟨answer, others⟩ := first
    cases erased : erase rest (.inside fields (extend key segment)) with
    | some found =>
      obtain ⟨after, old⟩ := found
      rw [erased, pulled, Prod.mk.injEq] at longer
      obtain ⟨rfl, rfl⟩ := longer
      rfl
    | none =>
      -- The longer keys gave nothing, and the search through them changed nothing.
      rw [erased, pulled, Prod.mk.injEq, Value.object.injEq] at longer
      obtain ⟨rfl, rfl⟩ := longer
      rw [Option.none_or, eraseThrough]
      cases found : Keyed.get? key others with
      | none => simp [pulled, found]
      | some child =>
        simp only [found, here, Option.bind_some, erase, eraseHere]
        cases removeFrom segment rest (erase rest) child with
        | none => simp [pulled, Keyed.insert_of_get? found]
        | some below => rfl

def KeyRemoval (fields : Record) (key : String) (taken : Nat) (rest : List String)
    (route : List Nat) (old : Value) (others : Record) : Prop :=
  ∃ n ≤ rest.length, ∃ child onward left,
    Keyed.get? ((rest.take n).foldl extend key) fields = some child ∧
    Removal child (rest.drop n) onward old left ∧ route = (taken + n) :: onward ∧
    others = Keyed.assign ((rest.take n).foldl extend key) left fields

theorem KeyRemoval.removal (inside : KeyRemoval fields segment 1 rest route old others) :
    Removal (.object fields) (segment :: rest) route old (some (.object others)) := by
  obtain ⟨n, within, child, onward, left, found, removal, rfl, rfl⟩ := inside
  obtain ⟨before, later, rfl, fresh⟩ := Keyed.exists_split_of_get? found
  have whole : (rest.take n).foldl extend segment =
      ".".intercalate ((segment :: rest).take (n + 1)) := by
    rw [List.take_succ_cons, intercalate_cons]
  rw [whole] at fresh
  rw [Keyed.assign_split (whole ▸ fresh), whole, Nat.add_comm 1 n]
  exact .key (Nat.succ_pos n) (Nat.succ_le_succ within) fresh removal

def TakesHere (segments : List String) : Prop :=
  ∀ u left old, eraseHere segments u = some (left, old) →
    ∃ route, Removal u segments route old left ∧ Foremost (Walk u segments) route old

def TakesInside (segments : List String) : Prop :=
  ∀ fields key taken after old, erase segments (.inside fields key) = some (after, old) →
    ∃ route others, after = .object others ∧
      KeyRemoval fields key taken segments route old others ∧
      Foremost (KeyWalk fields key taken segments) route old

theorem Foremost.bind {there : Option Value} {child : Value} {segments : List String}
    (found : there = some child) (foremost : Foremost (Walk child segments) route old) (n : Nat) :
    Foremost (fun route v => ∃ child, there = some child ∧
      ∃ onward, Walk child segments onward v ∧ route = n :: onward) (n :: route) old :=
  (foremost.step n).congr (by simp [found])

theorem takes_through {segments : List String} (here : TakesHere segments) {after : Value}
    (erased : eraseThrough segments fields key = some (after, old)) (taken : Nat) :
    ∃ route others, after = .object others ∧
      KeyRemoval fields key taken segments route old others ∧
      Foremost (fun route v => ∃ child, Keyed.get? key fields = some child ∧
        ∃ onward, Walk child segments onward v ∧ route = taken :: onward) route old := by
  obtain ⟨child, found, erased⟩ := Option.bind_eq_some_iff.1 erased
  obtain ⟨⟨left, _⟩, erased, same⟩ := Option.map_eq_some_iff.1 erased
  cases same
  obtain ⟨route, removal, foremost⟩ := here child left old erased
  exact ⟨taken :: route, _, rfl, ⟨0, Nat.zero_le _, child, route, left, found, removal, rfl, rfl⟩,
    foremost.bind found taken⟩

theorem takesHere_nil : TakesHere [] := by
  intro u left old erased
  cases erased
  refine ⟨[], .stop u, .stop u, fun other w walk => ?_⟩
  obtain ⟨rfl, rfl⟩ := walk_nil_iff.1 walk
  exact Or.inl ⟨rfl, rfl⟩

theorem takesInside_nil : TakesInside [] := by
  intro fields key taken after old erased
  rw [erase_inside_nil] at erased
  obtain ⟨route, others, rfl, removal, foremost⟩ := takes_through takesHere_nil erased taken
  exact ⟨route, others, rfl, removal, foremost.congr fun route v => keyWalk_nil_iff⟩

theorem takesHere_cons (here : TakesHere rest) (inside : TakesInside rest) :
    TakesHere (segment :: rest) := by
  intro u left old erased
  cases u with
  | object fields =>
    rw [eraseHere_object] at erased
    obtain ⟨⟨after, _⟩, erased, same⟩ := Option.map_eq_some_iff.1 erased
    cases same
    obtain ⟨route, others, rfl, removal, foremost⟩ := inside fields segment 1 after old erased
    exact ⟨route, removal.removal, foremost.congr fun route v => walk_object_iff⟩
  | array items =>
    rw [eraseHere_array] at erased
    obtain ⟨i, index, erased⟩ := Option.bind_eq_some_iff.1 erased
    obtain ⟨child, there, erased⟩ := Option.bind_eq_some_iff.1 erased
    obtain ⟨⟨below, _⟩, erased, same⟩ := Option.map_eq_some_iff.1 erased
    cases same
    obtain ⟨route, removal, foremost⟩ := here child below old erased
    refine ⟨1 :: route, ?_, (foremost.bind (by simp [index, there]) 1).congr
      fun route v => walk_array_iff⟩
    obtain ⟨within, rfl⟩ := List.getElem?_eq_some_iff.1 there
    have place : Numeral.index? segment = some (items.take i).length := by
      simpa [Nat.min_eq_left (Nat.le_of_lt within)] using index
    have split : items = items.take i ++ items[i] :: items.drop (i + 1) := by
      rw [← List.drop_eq_getElem_cons within, List.take_append_drop]
    have removed := @Removal.position _ (items.drop (i + 1)) _ _ _ _ _ _ place removal
    rwa [← split] at removed
  | _ => cases erased

theorem takesInside_cons (here : TakesHere (segment :: rest)) (inside : TakesInside rest) :
    TakesInside (segment :: rest) := by
  intro fields key taken after old erased
  rw [erase_inside_cons] at erased
  cases longer : erase rest (.inside fields (extend key segment)) with
  | some found =>
    rw [longer] at erased
    cases erased
    obtain ⟨route, others, rfl, removal, foremost⟩ :=
      inside fields (extend key segment) (taken + 1) after old longer
    refine ⟨route, others, rfl, ?_, (foremost.or_left ?_).congr fun route v => keyWalk_cons_iff⟩
    · obtain ⟨n, within, child, onward, left, found, removal, rfl, rfl⟩ := removal
      exact ⟨n + 1, Nat.succ_le_succ within, child, onward, left, found, removal, by grind, rfl⟩
    · -- A key that goes on has taken more segments than one that ends here.
      obtain ⟨n, _, _, _, _, _, rfl⟩ := foremost.1
      rintro _ w ⟨_, _, _, _, rfl⟩
      exact List.Lex.rel (by grind)
  | none =>
    rw [longer, Option.none_or] at erased
    have unread : Cursor.find rest (.inside fields (extend key segment)) = none := by
      rw [← (reads rest).2, longer, Option.map_none]
    have chosen := (Cursor.chosen_find rest).2 fields (extend key segment) (taken + 1)
    obtain ⟨route, others, rfl, removal, foremost⟩ := takes_through here erased taken
    exact ⟨route, others, rfl, removal, (foremost.or_right (chosen.eq_none_iff.1 unread)).congr
      fun route v => keyWalk_cons_iff⟩

theorem takes (segments : List String) : TakesHere segments ∧ TakesInside segments := by
  induction segments with
  | nil => exact ⟨takesHere_nil, takesInside_nil⟩
  | cons segment rest ih =>
    have here : TakesHere (segment :: rest) := takesHere_cons ih.1 ih.2
    exact ⟨here, takesInside_cons here ih.2⟩

section Documents

variable {after : Value} {path : String}

theorem remove?_eq_none_iff (root : Value) (path : String) :
    remove? root path = none ↔ get root path = none := by
  cases split : segments? path with
  | none => simp [remove?, get, split]
  | some parts =>
    obtain ⟨segment, rest, rfl, _⟩ := segments?_eq_some split
    have read := (reads (segment :: rest)).1 root
    simp only [remove?, get, split, Option.bind_some, ← read, eraseHere, erase,
      Option.map_eq_none_iff]

theorem removal_of_remove? (run : remove? root path = some (after, old)) :
    ∃ parts route, segments? path = some parts ∧ Removal root parts route old (some after) ∧
      Foremost (Walk root parts) route old := by
  obtain ⟨parts, split, erased⟩ := Option.bind_eq_some_iff.1 run
  obtain ⟨segment, rest, rfl, _⟩ := segments?_eq_some split
  have taken : eraseHere (segment :: rest) root = some (some after, old) := by
    rw [erase] at erased
    rw [eraseHere, erased, Option.map_some]
  obtain ⟨route, removal, foremost⟩ := (takes (segment :: rest)).1 root _ old taken
  exact ⟨_, route, split, removal, foremost⟩

theorem pull_eq_pulled (root : Value) (path : String) :
    pull root path = pulled root (remove? root path) := by
  rw [pull, remove?]
  cases segments? path with
  | none => rfl
  | some parts => exact (pulls parts).1 root

-- A removal takes out the value that reading finds, at the place where reading finds it, and
-- changes nothing else. Where reading finds nothing the document stays as it was, also when it is
-- changed in place.
theorem removal_takes_out_what_is_read (root : Value) (path : String) :
    pull root path = ((remove root path).2, (remove root path).1) ∧
    match get root path with
    | none => remove root path = (root, none)
    | some old => ∃ parts route after, Splits path parts ∧ remove root path = (after, some old) ∧
        Removal root parts route old (some after) ∧ Foremost (Walk root parts) route old := by
  rw [pull_eq_pulled, remove]
  cases run : remove? root path with
  | none => simp [(remove?_eq_none_iff root path).1 run, pulled]
  | some found =>
    obtain ⟨after, old⟩ := found
    refine ⟨rfl, ?_⟩
    obtain ⟨parts, route, split, removal, foremost⟩ := removal_of_remove? run
    have read : get root path = some old :=
      ((chosen_get root split).eq_some_iff old).2 ⟨route, foremost⟩
    rw [read]
    exact ⟨parts, route, after, (segments?_eq_some_iff.1 split).1, rfl, removal, foremost⟩

-- The longer key leads to nothing, and stays as it is.
example : remove (.object [("a.b", .object []), ("a", .object [("b", .object [("c", .null)])])])
    "a.b.c" = (.object [("a.b", .object []), ("a", .object [("b", .object [])])], some .null) := by
  decide +kernel

end Documents

end RecordSync.Path
