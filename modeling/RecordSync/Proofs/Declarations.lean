import RecordSync.Proofs.KeyedDocuments
import RecordSync.Workflow.Basic

set_option autoImplicit false

namespace RecordSync

namespace Except

variable {ε α β : Type}

theorem bind_eq_ok {x : Except ε α} {f : α → Except ε β} {b : β} (run : (x >>= f) = .ok b) :
    ∃ a, x = .ok a ∧ f a = .ok b := by
  cases x with
  | error e => cases run
  | ok a => exact ⟨a, rfl, run⟩

theorem map_eq_ok {x : Except ε α} {f : α → β} {b : β} (run : x.map f = .ok b) :
    ∃ a, x = .ok a ∧ f a = b := by
  cases x with
  | error e => cases run
  | ok a => exact ⟨a, rfl, Except.ok.inj run⟩

theorem map_eq_error {x : Except ε α} {f : α → β} {e : ε} (run : x.map f = .error e) :
    x = .error e := by
  cases x with
  | error e' => exact congrArg Except.error (Except.error.inj run)
  | ok a => cases run

theorem mem_of_mapM_eq_ok {f : α → Except ε β} {xs : List α} {ys : List β}
    (run : xs.mapM f = .ok ys) : ∀ y ∈ ys, ∃ x ∈ xs, f x = .ok y := by
  induction xs generalizing ys with
  | nil =>
    rw [List.mapM_nil] at run
    cases run
    exact fun _ member => nomatch member
  | cons x xs ih =>
    rw [List.mapM_cons] at run
    obtain ⟨y, first, run⟩ := bind_eq_ok run
    obtain ⟨rest, later, run⟩ := bind_eq_ok run
    cases run
    intro z member
    rcases List.mem_cons.1 member with rfl | member
    · exact ⟨x, List.mem_cons_self, first⟩
    · obtain ⟨a, there, holds⟩ := ih later z member
      exact ⟨a, List.mem_cons_of_mem x there, holds⟩

end Except

namespace Shape

variable {α : Type}

theorem readEntries_invariant {shape : Shape} {put : String → Value → α → Decoded α}
    (good : α → Prop)
    (step : ∀ name v a b, v.WellKeyed → good a → put name v a = .ok b → good b)
    {seen after : List String} {entries : Record} {a b : α}
    (keyed : ∀ entry ∈ entries, entry.2.WellKeyed) (before : good a)
    (run : shape.readEntries put seen entries a = .ok (after, b)) : good b := by
  induction entries generalizing seen a with
  | nil => cases run; exact before
  | cons entry rest ih =>
    obtain ⟨k, v⟩ := entry
    obtain ⟨first, later⟩ := List.forall_mem_cons.1 keyed
    unfold readEntries at run
    split at run
    · split at run
      · cases run
      · obtain ⟨next, written, run⟩ := Except.bind_eq_ok run
        exact ih later (step k v a next first before written) run
    · split at run
      · cases run
      · exact ih later before run

theorem readItems_invariant {put : String → Value → α → Decoded α} (good : α → Prop)
    (step : ∀ name v a b, v.WellKeyed → good a → put name v a = .ok b → good b)
    {names : List String} {items : List Value} {a b : α}
    (keyed : ∀ item ∈ items, item.WellKeyed) (before : good a)
    (run : readItems put names items a = .ok b) : good b := by
  induction names generalizing items a with
  | nil => cases run; exact before
  | cons name names ih =>
    cases items with
    | nil => cases run; exact before
    | cons item items =>
      obtain ⟨first, later⟩ := List.forall_mem_cons.1 keyed
      obtain ⟨next, written, run⟩ := Except.bind_eq_ok run
      exact ih later (step name item a next first before written) run

-- What the blank structure has and every field keeps holds of what is read.
theorem read_invariant {shape : Shape} {origin : Origin} {put : String → Value → α → Decoded α}
    {blank : α} (good : α → Prop)
    (step : ∀ name v a b, v.WellKeyed → good a → put name v a = .ok b → good b)
    (start : good blank) {v : Value} {b : α} (keyed : v.WellKeyed)
    (run : shape.read origin put blank v = .ok b) : good b := by
  -- A structure is read by name from an object, or by position from an array.
  cases v with
  | object fields =>
    obtain ⟨⟨seen, a⟩, entries, run⟩ := Except.bind_eq_ok run
    have held :=
      readEntries_invariant good step ((Record.wellKeyed_iff fields).1 keyed).2 start entries
    dsimp only at run
    split at run
    · cases run
    · cases run
      exact held
  | array items =>
    obtain ⟨a, read, run⟩ := Except.bind_eq_ok run
    have held :=
      readItems_invariant good step ((Value.wellKeyed_array_iff items).1 keyed) start read
    dsimp only at run
    split at run
    · cases run
    · split at run
      · cases run
      · cases run
        exact held
  | _ => cases run

end Shape

def Source.WellKeyed : Source → Prop
  | .literal v => v.WellKeyed
  | .path _ | .expression _ => True

def RewriteRule.WellKeyed : RewriteRule → Prop
  | .whole _ replacement => replacement.WellKeyed
  | .regex _ _ => True

inductive AttributeDefinition.WellKeyed : AttributeDefinition → Prop
  | intro {d : AttributeDefinition} (sources : ∀ source ∈ d.sources, source.WellKeyed)
    (rules : ∀ rule ∈ d.rewrite, rule.WellKeyed)
    (nested : ∀ inner, d.unwind = some inner → inner.WellKeyed) : d.WellKeyed

structure AttributeDefinition.Sound (d : AttributeDefinition) : Prop where
  name_ne : d.name ≠ ""
  merges_array : d.ensure = .merge → d.kind = .array

inductive AttributeSpec.WellKeyed : AttributeSpec → Prop
  | intro {spec : AttributeSpec} (literal : spec.literal.WellKeyed)
    (rules : ∀ rule ∈ spec.rewrite, rule.replacement.WellKeyed)
    (nested : ∀ inner, spec.unwind = some inner → inner.WellKeyed) : spec.WellKeyed

namespace RewriteSpec

theorem wellKeyed_ofValue {v : Value} {rule : RewriteSpec} (keyed : v.WellKeyed)
    (run : ofValue v = .ok rule) : rule.replacement.WellKeyed := by
  refine Shape.read_invariant (fun rule => rule.replacement.WellKeyed) ?_ Value.wellKeyed_null
    keyed run
  intro name value a b valueKeyed before written
  unfold put at written
  split at written
  · cases written
    exact before
  · cases written
    exact valueKeyed
  · obtain ⟨regex, _, written⟩ := Except.bind_eq_ok written
    cases written
    exact before

end RewriteSpec

namespace Decode

variable {α : Type}

theorem mem_of_list_eq_ok {read : Value → Decoded α} {v : Value} {xs : List α} (keyed : v.WellKeyed)
    (run : Decode.list read v = .ok xs) : ∀ x ∈ xs, ∃ item, item.WellKeyed ∧ read item = .ok x := by
  cases v with
  | array items =>
    intro x member
    obtain ⟨item, there, holds⟩ := Except.mem_of_mapM_eq_ok run x member
    exact ⟨item, (Value.wellKeyed_array_iff items).1 keyed item there, holds⟩
  | _ => cases run

theorem of_option_eq_ok {read : Value → Decoded α} {v : Value} {x : α}
    (run : Decode.option read v = .ok (some x)) : read v = .ok x := by
  cases v with
  | null => cases run
  | _ =>
    obtain ⟨y, read, same⟩ := Except.map_eq_ok run
    exact Option.some.inj same ▸ read

end Decode

namespace AttributeSpec

theorem wellKeyed_blank : blank.WellKeyed :=
  .intro Value.wellKeyed_null (fun _ member => nomatch member) (fun _ none => nomatch none)

theorem wellKeyed_put {nested : Value → Decoded AttributeSpec}
    (nestedKeyed : ∀ v spec, v.WellKeyed → nested v = .ok spec → spec.WellKeyed) {name : String}
    {v : Value} {a b : AttributeSpec} (keyed : v.WellKeyed) (before : a.WellKeyed)
    (run : put nested name v a = .ok b) : b.WellKeyed := by
  obtain ⟨literal, rules, inner⟩ := before
  unfold put at run
  split at run
  case h_2 =>
    cases run
    exact .intro keyed rules inner
  case h_8 =>
    obtain ⟨new, read, run⟩ := Except.bind_eq_ok run
    cases run
    refine .intro literal (fun rule member => ?_) inner
    obtain ⟨item, itemKeyed, holds⟩ := Decode.mem_of_list_eq_ok keyed read rule member
    exact RewriteSpec.wellKeyed_ofValue itemKeyed holds
  case h_10 =>
    obtain ⟨new, read, run⟩ := Except.bind_eq_ok run
    cases run
    refine .intro literal rules fun spec same => nestedKeyed v spec keyed ?_
    exact Decode.of_option_eq_ok (same ▸ read)
  all_goals
    obtain ⟨new, _, run⟩ := Except.bind_eq_ok run
    cases run
    exact .intro literal rules inner

theorem wellKeyed_ofValueWithin {depth : Nat} {v : Value} {spec : AttributeSpec}
    (keyed : v.WellKeyed) (run : ofValueWithin depth v = .ok spec) : spec.WellKeyed := by
  induction depth generalizing v spec with
  | zero => cases run
  | succ depth ih =>
    exact Shape.read_invariant WellKeyed
      (fun _ _ _ _ value before written => wellKeyed_put (fun _ _ => ih) value before written)
      wellKeyed_blank keyed run

end AttributeSpec

namespace RewriteRule

variable {compile : Pattern.Compiler}

theorem wellKeyed_ofSpec {name : String} {index : Nat} {spec : RewriteSpec} {rule : RewriteRule}
    (keyed : spec.replacement.WellKeyed) (run : ofSpec compile name index spec = .ok rule) :
    rule.WellKeyed := by
  unfold ofSpec at run
  split at run
  · cases run
  · split at run
    · cases run
      exact keyed
    · split at run
      · split at run
        · cases run
          trivial
        · cases run
      · cases run

theorem wellKeyed_ofSpecs {name : String} {index : Nat} {specs : List RewriteSpec}
    {rules : List RewriteRule} (keyed : ∀ spec ∈ specs, spec.replacement.WellKeyed)
    (run : ofSpecs compile name index specs = .ok rules) : ∀ rule ∈ rules, rule.WellKeyed := by
  induction specs generalizing index rules with
  | nil =>
    cases run
    exact fun _ member => nomatch member
  | cons spec specs ih =>
    obtain ⟨specKeyed, restKeyed⟩ := List.forall_mem_cons.1 keyed
    obtain ⟨first, head, run⟩ := Except.bind_eq_ok run
    obtain ⟨rest, tail, run⟩ := Except.bind_eq_ok run
    cases run
    exact List.forall_mem_cons.2 ⟨wellKeyed_ofSpec specKeyed head, ih restKeyed tail⟩

end RewriteRule

namespace AttributeDefinition

variable {compile : Pattern.Compiler}

theorem wellKeyed_sourcesOf {spec : AttributeSpec} (keyed : spec.literal.WellKeyed) :
    ∀ source ∈ sourcesOf spec, source.WellKeyed := by
  intro source member
  simp only [sourcesOf, List.mem_append, List.mem_map] at member
  rcases member with (literal | ⟨_, _, rfl⟩) | ⟨_, _, rfl⟩
  · split at literal
    · cases literal
    · rw [List.mem_singleton.1 literal]
      exact keyed
  · trivial
  · trivial

structure Checked (compile : Pattern.Compiler) (key : String) (spec : AttributeSpec)
    (d : AttributeDefinition) : Prop where
  name : d.name = spec.rename.getD key
  name_ne : d.name ≠ ""
  kind : d.kind = spec.kind
  ensure : d.ensure = spec.ensure
  required : d.required = spec.required
  relation : d.relation = spec.relation
  merges_array : spec.ensure = .merge → spec.kind = .array
  path : checkPath d.name spec.path = .ok ()
  sources : d.sources = sourcesOf spec
  rules : RewriteRule.ofSpecs compile d.name 0 spec.rewrite = .ok d.rewrite
  pattern : readRequire compile d.name spec.require = .ok d.require
  nested : Option.Rel (fun inner e => ofSpec compile d.name inner = .ok e) spec.unwind d.unwind

theorem checked_ofSpec {key : String} {spec : AttributeSpec} {d : AttributeDefinition}
    (run : ofSpec compile key spec = .ok d) : Checked compile key spec d := by
  obtain ⟨path, literal, expression, kind, ensure, required, rename, rewrite, require, unwind,
    relation⟩ := spec
  unfold ofSpec at run
  dsimp only at run
  split at run
  · cases run
  · rename_i named
    split at run
    · cases run
    · rename_i mergeable
      obtain ⟨_, walks, run⟩ := Except.bind_eq_ok run
      obtain ⟨rules, rewrites, run⟩ := Except.bind_eq_ok run
      obtain ⟨pattern, reads, run⟩ := Except.bind_eq_ok run
      have named : rename.getD key ≠ "" := by
        simpa using named
      have mergeable : ensure = .merge → kind = .array := by
        simpa using mergeable
      split at run
      · obtain ⟨nested, checked, run⟩ := Except.bind_eq_ok run
        obtain ⟨e, holds, rfl⟩ := Except.map_eq_ok checked
        cases run
        exact ⟨rfl, named, rfl, rfl, rfl, rfl, mergeable, walks, rfl, rewrites, reads, .some holds⟩
      · cases run
        exact ⟨rfl, named, rfl, rfl, rfl, rfl, mergeable, walks, rfl, rewrites, reads, .none⟩

theorem ofSpec_of_checked {key : String} {spec : AttributeSpec} {d : AttributeDefinition}
    (checked : Checked compile key spec d) : ofSpec compile key spec = .ok d := by
  obtain ⟨path, literal, expression, _, _, _, rename, rewrite, require, unwind, _⟩ := spec
  obtain ⟨_, _, kind, ensure, required, rules, pattern, nested, relation⟩ := d
  obtain ⟨sameName, named, sameKind, sameEnsure, sameRequired, sameRelation, mergeable, walks,
    sameSources, rewrites, reads, inner⟩ := checked
  dsimp only at *
  subst sameName sameKind sameEnsure sameRequired sameRelation sameSources
  have passes : (decide (ensure = .merge) && kind != .array) = false := by
    simpa using mergeable
  unfold ofSpec
  simp only [String.isEmpty_iff, if_neg named, passes, walks, rewrites, reads]
  cases inner with
  | none => rfl
  | some holds =>
    simp only [holds]
    rfl

theorem Checked.declared {key : String} {spec : AttributeSpec} {d e : AttributeDefinition}
    (checked : Checked compile key spec d) (same : d.unwind = some e) :
    ∃ inner, spec.unwind = some inner ∧ ofSpec compile d.name inner = .ok e := by
  have nested := checked.nested
  rw [same] at nested
  generalize spec.unwind = unwind at nested
  cases nested with
  | some holds => exact ⟨_, rfl, holds⟩

theorem Checked.sound {key : String} {spec : AttributeSpec} {d : AttributeDefinition}
    (checked : Checked compile key spec d) : d.Sound := by
  refine ⟨checked.name_ne, ?_⟩
  rw [checked.ensure, checked.kind]
  exact checked.merges_array

theorem wellKeyed_ofSpec {key : String} {spec : AttributeSpec} {d : AttributeDefinition}
    (keyed : spec.WellKeyed) (run : ofSpec compile key spec = .ok d) : d.WellKeyed := by
  -- Over the declarations of elements, one in another.
  induction keyed generalizing key d with
  | intro literal rules _ ih =>
    have checked := checked_ofSpec run
    refine .intro (fun source member => ?_) (RewriteRule.wellKeyed_ofSpecs rules checked.rules) ?_
    · exact wellKeyed_sourcesOf literal source (checked.sources ▸ member)
    · intro inner same
      obtain ⟨spec', declared, holds⟩ := checked.declared same
      exact ih spec' declared holds

theorem sound_ofEntry {entry : String × Value} {d : AttributeDefinition}
    (run : ofEntry compile entry = .ok d) : d.Sound := by
  unfold ofEntry at run
  split at run
  · exact (checked_ofSpec run).sound
  · cases run

theorem wellKeyed_ofEntry {entry : String × Value} {d : AttributeDefinition}
    (keyed : entry.2.WellKeyed) (run : ofEntry compile entry = .ok d) : d.WellKeyed := by
  unfold ofEntry at run
  split at run
  · rename_i read
    exact wellKeyed_ofSpec (AttributeSpec.wellKeyed_ofValueWithin keyed read) run
  · cases run

end AttributeDefinition

namespace Mapper

variable {compile : Pattern.Compiler}

def Sound (m : Mapper) : Prop := ∀ d ∈ m.definitions, d.Sound

def WellKeyed (m : Mapper) : Prop := ∀ d ∈ m.definitions, d.WellKeyed

theorem definitions_ofRecord {specs : Record} {m : Mapper} (run : ofRecord compile specs = .ok m) :
    ∀ d ∈ m.definitions, ∃ entry ∈ specs, AttributeDefinition.ofEntry compile entry = .ok d := by
  obtain ⟨ds, read, run⟩ := Except.bind_eq_ok run
  unfold ofDefinitions at run
  split at run
  · cases run
    exact Except.mem_of_mapM_eq_ok read
  · cases run

theorem sound_ofRecord {specs : Record} {m : Mapper} (run : ofRecord compile specs = .ok m) :
    m.Sound := by
  intro d member
  obtain ⟨entry, _, checked⟩ := definitions_ofRecord run d member
  exact AttributeDefinition.sound_ofEntry checked

theorem wellKeyed_ofRecord {specs : Record} {m : Mapper} (keyed : Record.WellKeyed specs)
    (run : ofRecord compile specs = .ok m) : m.WellKeyed := by
  intro d member
  obtain ⟨entry, there, checked⟩ := definitions_ofRecord run d member
  exact AttributeDefinition.wellKeyed_ofEntry (keyed.value there) checked

end Mapper

namespace Workflow

variable {compile : Pattern.Compiler}

theorem ofSpec_eq_ok {spec : WorkflowSpec} {w : Workflow} (run : ofSpec compile spec = .ok w) :
    Text.isBlankText spec.name = false ∧ blankField? spec = none ∧
      Mapper.ofRecord compile spec.attributes = .ok w.mapper ∧ w.ensure = spec.ensure ∧
      w.identifiers = spec.identifiers := by
  unfold ofSpec at run
  by_cases blank : Text.isBlankText spec.name = true
  · rw [if_pos blank] at run
    cases run
  · rw [if_neg blank] at run
    cases fields : blankField? spec with
    | some fault =>
      rw [fields] at run
      cases run
    | none =>
      rw [fields] at run
      by_cases merges : spec.ensure = .merge
      · rw [dif_pos merges] at run
        cases run
      · rw [dif_neg merges] at run
        dsimp only at run
        split at run
        · cases run
        · rename_i mapper read
          split at run
          · cases run
          · cases run
            exact ⟨Bool.eq_false_iff.2 blank, rfl, read, rfl, rfl⟩

theorem mapper_ofSpec {spec : WorkflowSpec} {w : Workflow} (run : ofSpec compile spec = .ok w) :
    Mapper.ofRecord compile spec.attributes = .ok w.mapper :=
  (ofSpec_eq_ok run).2.2.1

theorem sound_ofSpec {spec : WorkflowSpec} {w : Workflow} (accepted : ofSpec compile spec = .ok w) :
    w.mapper.Sound :=
  Mapper.sound_ofRecord (mapper_ofSpec accepted)

theorem wellKeyed_ofSpec {spec : WorkflowSpec} {w : Workflow}
    (keyed : Record.WellKeyed spec.attributes) (accepted : ofSpec compile spec = .ok w) :
    w.mapper.WellKeyed :=
  Mapper.wellKeyed_ofRecord keyed (mapper_ofSpec accepted)

end Workflow

end RecordSync
