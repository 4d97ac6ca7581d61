import RecordSync.Proofs.PathWrites

set_option autoImplicit false

namespace RecordSync.Path

-- A walk that never turns back: an object is left by all remaining segments as one key where it has
-- that key, else through its longest key that holds a container.
inductive DirectWalk : Value → List String → Value → Prop
  | stop (v : Value) : DirectWalk v [] v
  | whole {fields : Record} {parts : List String} {v : Value} (more : parts ≠ [])
      (found : Keyed.get? (".".intercalate parts) fields = some v) :
      DirectWalk (.object fields) parts v
  | through {fields : Record} {parts : List String} {n : Nat} {child v : Value}
      (absent : Keyed.get? (".".intercalate parts) fields = none)
      (through : Through fields parts n child) (onward : DirectWalk child (parts.drop n) v) :
      DirectWalk (.object fields) parts v
  | position {items : List Value} {segment : String} {rest : List String} {i : Nat}
      {child v : Value} (index : Numeral.index? segment = some i) (found : items[i]? = some child)
      (onward : DirectWalk child rest v) : DirectWalk (.array items) (segment :: rest) v

section Reading

variable {fields : Record} {parts : List String} {n : Nat} {root child v : Value}

theorem not_walk_of_scalar {route : List Nat} (scalar : child.isContainer = false)
    (more : parts ≠ []) : ¬ Walk child parts route v := by
  intro walk
  cases walk with
  | stop => exact more rfl
  | _ => cases scalar

theorem First.whole (more : parts ≠ [])
    (found : Keyed.get? (".".intercalate parts) fields = some v) :
    First (Walk (.object fields) parts) v := by
  have length := List.length_pos_iff.2 more
  have walk : Walk (.object fields) parts [parts.length] v :=
    .key length (Nat.le_refl _) (by simpa using found) (by simpa using .stop v)
  refine ⟨[parts.length], walk, fun other w walk => ?_⟩
  cases walk with
  | stop => exact absurd rfl more
  | @key _ _ m child _ onward taken within there walk =>
    rcases Nat.lt_or_eq_of_le within with shorter | rfl
    · exact Or.inr (List.Lex.rel shorter)
    · rw [List.take_length, found] at there
      rw [List.drop_length, walk_nil_iff] at walk
      grind

theorem First.through (absent : Keyed.get? (".".intercalate parts) fields = none)
    (through : Through fields parts n child) (onward : First (Walk child (parts.drop n)) v) :
    First (Walk (.object fields) parts) v := by
  obtain ⟨route, walk, least⟩ := onward
  refine ⟨n :: route, .key through.taken (Nat.le_of_lt through.leaves) through.found walk,
    fun other w walk => ?_⟩
  cases walk with
  | stop => exact absurd through.leaves (Nat.not_lt_zero n)
  | @key _ _ m other _ onward taken within there walk =>
    rcases Nat.lt_trichotomy m n with shorter | rfl | longer
    · exact Or.inr (List.Lex.rel shorter)
    · obtain rfl : child = other := Option.some.inj (through.found.symm.trans there)
      rcases least onward w walk with ⟨rfl, rfl⟩ | before
      · exact Or.inl ⟨rfl, rfl⟩
      · exact Or.inr (List.Lex.cons before)
    · -- A longer key that leaves segments over holds a scalar, where they lead nowhere.
      rcases Nat.lt_or_eq_of_le within with leaves | rfl
      · have scalar := through.longest m other longer leaves there
        exact absurd walk (not_walk_of_scalar scalar (by simpa using leaves))
      · rw [List.take_length, absent] at there
        cases there

theorem DirectWalk.first (direct : DirectWalk root parts v) : First (Walk root parts) v := by
  induction direct with
  | stop v =>
    refine ⟨[], .stop v, fun other w walk => Or.inl ?_⟩
    obtain ⟨rfl, rfl⟩ := walk_nil_iff.1 walk
    exact ⟨rfl, rfl⟩
  | whole more found => exact .whole more found
  | through absent through _ ih => exact .through absent through ih
  | position index found _ ih =>
    obtain ⟨route, walk, least⟩ := ih
    refine ⟨1 :: route, .position index found walk, fun other w walk => ?_⟩
    cases walk with
    | position index' found' walk =>
      obtain rfl := Option.some.inj (index.symm.trans index')
      obtain rfl := Option.some.inj (found.symm.trans found')
      rcases least _ w walk with ⟨rfl, rfl⟩ | before
      · exact Or.inl ⟨rfl, rfl⟩
      · exact Or.inr (List.Lex.cons before)

end Reading

section Writing

variable {fields : Record} {items : List Value} {parts rest : List String} {segment : String}
  {n : Nat} {root child v new after : Value} {old : Option Value} {path : String}

theorem directWalk_nil_iff : DirectWalk root [] v ↔ root = v := by
  constructor
  · intro direct
    cases direct with
    | stop => rfl
    | whole more => exact absurd rfl more
    | through _ through => exact absurd through.leaves (Nat.not_lt_zero _)
  · rintro rfl
    exact .stop root

theorem directWalk_whole_iff {old : Value} (more : parts ≠ [])
    (found : Keyed.get? (".".intercalate parts) fields = some old) :
    DirectWalk (.object fields) parts v ↔ old = v := by
  constructor
  · intro direct
    cases direct with
    | stop => exact absurd rfl more
    | whole _ there => exact Option.some.inj (found.symm.trans there)
    | through absent => exact nomatch found.symm.trans absent
  · rintro rfl
    exact .whole more found

theorem Through.unique {m : Nat} {other : Value} (through : Through fields parts n child)
    (second : Through fields parts m other) : m = n ∧ other = child := by
  obtain rfl : m = n := by
    rcases Nat.lt_trichotomy m n with before | same | after
    · have scalar := second.longest n child before through.leaves through.found
      exact nomatch through.container.symm.trans scalar
    · exact same
    · have scalar := through.longest m other after second.leaves second.found
      exact nomatch second.container.symm.trans scalar
  exact ⟨rfl, Option.some.inj (second.found.symm.trans through.found)⟩

theorem directWalk_through_iff (absent : Keyed.get? (".".intercalate parts) fields = none)
    (through : Through fields parts n child) :
    DirectWalk (.object fields) parts v ↔ DirectWalk child (parts.drop n) v := by
  refine ⟨fun direct => ?_, .through absent through⟩
  cases direct with
  | stop => exact absurd through.leaves (Nat.not_lt_zero n)
  | whole _ there => exact nomatch absent.symm.trans there
  | through _ second onward =>
    obtain ⟨rfl, rfl⟩ := through.unique second
    exact onward

theorem not_directWalk_of_scalars (absent : Keyed.get? (".".intercalate parts) fields = none)
    (more : parts ≠ []) (none : ∀ n child, ¬ Through fields parts n child) :
    ¬ DirectWalk (.object fields) parts v := by
  intro direct
  cases direct with
  | stop => exact more rfl
  | whole _ there => exact nomatch absent.symm.trans there
  | through _ through => exact none _ _ through

theorem directWalk_array_iff :
    DirectWalk (.array items) (segment :: rest) v ↔
      ∃ child, ((Numeral.index? segment).bind fun i => items[i]?) = some child ∧
        DirectWalk child rest v := by
  constructor
  · intro direct
    cases direct with
    | position index found onward => exact ⟨_, by simp [index, found], onward⟩
  · rintro ⟨child, there, onward⟩
    obtain ⟨i, index, found⟩ := Option.bind_eq_some_iff.1 there
    exact .position index found onward

def Reports (new : Value) (path : String) (parts : List String) (root : Value) : Prop :=
  ∀ after old v, writeHere new path parts root = .ok (after, old) →
    (old = some v ↔ DirectWalk root parts v)

theorem reports_object (more : parts ≠ [])
    (onward : ∀ n child, 0 < n → n < parts.length → Reports new path (parts.drop n) child) :
    Reports new path parts (.object fields) := by
  obtain ⟨segment, rest, rfl⟩ := List.exists_cons_of_ne_nil more
  intro after old v wrote
  rw [writeHere, writeFrom, write_inside, ← intercalate_cons] at wrote
  cases whole : Keyed.get? (".".intercalate (segment :: rest)) fields with
  | some found =>
    simp only [whole] at wrote
    cases wrote
    rw [directWalk_whole_iff more whole, Option.some.injEq]
  | none =>
    simp only [whole] at wrote
    cases run : through? fields segment rest with
    | some longest =>
      obtain ⟨key, child, left⟩ := longest
      obtain ⟨n, through, rfl, rfl⟩ := through_of_through? run
      simp only [run, Option.map_some] at wrote
      obtain ⟨⟨below, old⟩, inside, same⟩ := Except.map_eq_ok wrote
      cases same
      rw [directWalk_through_iff whole through]
      exact onward n child through.taken through.leaves below old v inside
    | none =>
      -- The write makes a new key here, and no key was there to walk through.
      have scalars (n : Nat) (child : Value) : ¬ Through fields (segment :: rest) n child := by
        intro through
        have scalar := scalar_of_through? run through.taken through.leaves through.found
        rw [through.container] at scalar
        cases scalar
      simp only [run, Option.map_none] at wrote
      split at wrote
      · cases wrote
      · cases wrote
        exact iff_of_false (by rintro ⟨⟩) (not_directWalk_of_scalars whole more scalars)

theorem reports_array (onward : ∀ child, Reports new path rest child) :
    Reports new path (segment :: rest) (.array items) := by
  intro after old v wrote
  rw [writeHere_array] at wrote
  rw [directWalk_array_iff]
  cases index : Numeral.index? segment with
  | none => simp [index] at wrote
  | some i =>
    cases there : items[i]? with
    | some child =>
      simp only [index, there] at wrote
      obtain ⟨⟨below, old⟩, inside, same⟩ := Except.map_eq_ok wrote
      cases same
      simpa [there] using onward child below old v inside
    | none =>
      simp only [index, there] at wrote
      split at wrote
      · cases wrote
        simp [there]
      · cases wrote

theorem reports (parts : List String) (root : Value) : Reports new path parts root := by
  induction length : parts.length using Nat.strongRecOn generalizing parts root with
  | ind size ih =>
    subst length
    cases parts with
    | nil =>
      rintro after old v ⟨⟩
      rw [directWalk_nil_iff, Option.some.injEq]
    | cons segment rest =>
      cases root with
      | object fields =>
        refine reports_object (List.cons_ne_nil segment rest) fun n child taken leaves => ?_
        exact ih _ (by rw [List.length_drop]; omega) _ child rfl
      | array items => exact reports_array fun child => ih rest.length (by simp) rest child rfl
      | _ => rintro after old v ⟨⟩

-- A write reports what was read before, except where the direct walk comes to nothing and another
-- walk does not: then it reports nothing.
theorem write_reports_direct_walk (wrote : set root path new = .ok (after, old)) :
    ∃ parts, segments? path = some parts ∧ (∀ v, old = some v ↔ DirectWalk root parts v) ∧
      (old = get root path ↔
        (∃ v, DirectWalk root parts v) ∨ ∀ route v, ¬ Walk root parts route v) := by
  cases split : segments? path with
  | none => simp [set_of_unsplit split] at wrote
  | some parts =>
    rw [set_of_split split] at wrote
    have reported (v : Value) := reports parts root after old v wrote
    have chosen := chosen_get root split
    refine ⟨parts, rfl, reported, ?_⟩
    cases old with
    | some v =>
      have direct := (reported v).1 rfl
      exact iff_of_true ((chosen.eq_some_iff v).2 direct.first).symm (Or.inl ⟨v, direct⟩)
    | none =>
      have indirect : ¬ ∃ v, DirectWalk root parts v :=
        fun ⟨v, direct⟩ => nomatch (reported v).2 direct
      rw [eq_comm, chosen.eq_none_iff]
      exact (or_iff_right indirect).symm

theorem write_reports_direct_walk_below_dotted_key :
    let nested := Value.object [("b", .object [("c", .array [.null, .string "hidden"])])]
    let root := Value.object
      [("a", nested), ("a.b", .object [("c", .array [.bool false, .string "old"])])]
    let after := Value.object
      [("a", nested), ("a.b", .object [("c", .array [.bool false, .string "new"])])]
    set root "a.b.c.1" (.string "new") = .ok (after, some (.string "old")) ∧
      ∃ parts, segments? "a.b.c.1" = some parts ∧
        (∀ v, some (.string "old") = some v ↔ DirectWalk root parts v) ∧
        (some (.string "old") = get root "a.b.c.1" ↔
          (∃ v, DirectWalk root parts v) ∨ ∀ route v, ¬ Walk root parts route v) := by
  intro nested root after
  have wrote : set root "a.b.c.1" (.string "new") = .ok (after, some (.string "old")) := by
    decide +kernel
  exact ⟨wrote, write_reports_direct_walk wrote⟩

-- The longer key holds an empty object, so the write goes there and reports nothing, while reading
-- turns back and finds the value below the nested keys.
theorem write_hides_value_unreported :
    let one := Value.number (.int 1 (by decide))
    let two := Value.number (.int 2 (by decide))
    let nested := Value.object [("b", .object [("c", one)])]
    get (.object [("a.b", .object []), ("a", nested)]) "a.b.c" = some one ∧
      set (.object [("a.b", .object []), ("a", nested)]) "a.b.c" two =
        .ok (.object [("a.b", .object [("c", two)]), ("a", nested)], none) := by
  decide +kernel

end Writing

end RecordSync.Path
