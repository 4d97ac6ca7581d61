import Mathlib.Data.List.Nodup
import RecordSync.Attribute.Mapper
import RecordSync.Proofs.Typing

set_option autoImplicit false

namespace RecordSync

def Evaluator.WellKeyed (evaluate : Evaluator) : Prop :=
  ∀ code context v, Record.WellKeyed context → evaluate code context = .ok v → v.WellKeyed

namespace AttributeDefinition

variable {evaluate : Evaluator} {record : Record} {d : AttributeDefinition} {v : Value}

theorem eq_none_of_leaveOut {name : String} {required lenient : Bool} {left : Option Value}
    (run : leaveOut name required lenient = .ok left) :
    left = none ∧ (required = true → lenient = true) := by
  unfold leaveOut at run
  split at run
  · cases run
  · rename_i lax
    cases run
    exact ⟨rfl, by simpa using lax⟩

theorem leaveOut_ne_some {name : String} {required lenient : Bool} :
    leaveOut name required lenient ≠ .ok (some v) :=
  fun run => nomatch (eq_none_of_leaveOut run).1

theorem eq_of_kept {name : String} {required lenient : Bool} {value : Value}
    (run : (if value.isEmpty then leaveOut name required lenient else .ok (some value)) =
      .ok (some v)) : v.isEmpty = false ∧ v = value := by
  split at run
  · exact absurd run leaveOut_ne_some
  · rename_i kept
    cases run
    exact ⟨Bool.eq_false_iff.2 kept, rfl⟩

theorem lenient_of_dropped {name : String} {required lenient : Bool} {value : Value}
    (run : (if value.isEmpty then leaveOut name required lenient else .ok (some value)) = .ok none) :
    required = true → lenient = true := by
  split at run
  · exact (eq_none_of_leaveOut run).2
  · cases run

-- How a value came about: coerced from what the sources say, or collected from the elements of the
-- coerced array, which are unwound whenever there is a definition for them.
theorem resolve_eq_some {lenient : Bool} (run : d.resolve evaluate lenient record = .ok (some v)) :
    d.ensure ≠ .absent ∧ v.isEmpty = false ∧ ∃ coerced,
      Coercion.coerce d.kind
        (rewriteValue d.rewrite (firstElement d.kind (rawValue evaluate record d.sources))) =
          .ok coerced ∧
      ((v = coerced ∧ ∀ nested items, d.unwind = some nested → coerced ≠ .array items) ∨
        ∃ nested items survivors, d.unwind = some nested ∧ coerced = .array items ∧
          items.mapM (fun item => nested.resolve evaluate true [(unwindKey, item)]) =
            .ok survivors ∧ v = .array (survivors.filterMap id)) := by
  obtain ⟨name, sources, kind, ensure, required, rewrite, require, unwind, relation⟩ := d
  unfold resolve at run
  split at run
  · cases run
  · rename_i present
    dsimp only at run
    split at run
    · exact absurd run leaveOut_ne_some
    · split at run
      · cases run
      · split at run
        · cases run
        · rename_i coerced coerce
          split at run
          · obtain ⟨survivors, mapped, run⟩ := Except.bind_eq_ok run
            obtain ⟨nonempty, rfl⟩ := eq_of_kept run
            exact ⟨present, nonempty, _, coerce, Or.inr ⟨_, _, survivors, rfl, rfl, mapped, rfl⟩⟩
          · rename_i whole
            obtain ⟨nonempty, rfl⟩ := eq_of_kept run
            exact ⟨present, nonempty, _, coerce, Or.inl ⟨rfl, whole⟩⟩

theorem resolve_eq_none {lenient : Bool} (run : d.resolve evaluate lenient record = .ok none) :
    d.ensure = .absent ∨ (d.required = true → lenient = true) := by
  obtain ⟨name, sources, kind, ensure, required, rewrite, require, unwind, relation⟩ := d
  unfold resolve at run
  split at run
  · rename_i absent
    exact Or.inl absent
  · right
    dsimp only at run
    -- Emptiness is met before the coercion, or after it and the unwinding.
    split at run
    · exact (eq_none_of_leaveOut run).2
    · split at run
      · cases run
      · split at run
        · cases run
        · split at run
          · obtain ⟨survivors, _, run⟩ := Except.bind_eq_ok run
            exact lenient_of_dropped run
          · exact lenient_of_dropped run

theorem holds_resolve {lenient : Bool} (run : d.resolve evaluate lenient record = .ok (some v)) :
    d.kind.Holds v := by
  obtain ⟨_, _, coerced, coerce, ⟨same, _⟩ | ⟨nested, items, survivors, _, array, _, collected⟩⟩ :=
    resolve_eq_some run
  · exact same ▸ Coercion.holds_coerce coerce
  · have holds := Coercion.holds_coerce coerce
    rw [array] at holds
    rw [collected]
    generalize d.kind = kind at holds
    cases holds
    exact .array _

theorem wellKeyed_consult (evaluateKeyed : evaluate.WellKeyed)
    (recordKeyed : Record.WellKeyed record)
    {source : Source} (sourceKeyed : source.WellKeyed) (before : v.WellKeyed) :
    (consult evaluate record v source).WellKeyed := by
  unfold consult
  split
  · exact sourceKeyed
  · cases found : Path.getIn record _ with
    | none => exact before
    | some w => exact Path.wellKeyed_getIn recordKeyed found
  · split
    · rename_i result
      exact evaluateKeyed _ _ _ recordKeyed result
    · exact before

theorem wellKeyed_rawValue (evaluateKeyed : evaluate.WellKeyed)
    (recordKeyed : Record.WellKeyed record) {sources : List Source}
    (sourcesKeyed : ∀ source ∈ sources, source.WellKeyed) :
    (rawValue evaluate record sources).WellKeyed := by
  unfold rawValue
  have general (before : Value) (keyed : before.WellKeyed) :
      (sources.foldl (consult evaluate record) before).WellKeyed := by
    induction sources generalizing before with
    | nil => exact keyed
    | cons source rest ih =>
      obtain ⟨first, later⟩ := List.forall_mem_cons.1 sourcesKeyed
      exact ih later _ (wellKeyed_consult evaluateKeyed recordKeyed first keyed)
  exact general .null Value.wellKeyed_null

theorem wellKeyed_firstElement (kind : Kind) (keyed : v.WellKeyed) :
    (firstElement kind v).WellKeyed := by
  unfold firstElement
  split
  · split
    · exact keyed
    · rename_i items _
      cases items with
      | nil => exact Value.wellKeyed_null
      | cons item rest => exact (Value.wellKeyed_array_iff _).1 keyed item List.mem_cons_self
  · exact keyed

theorem wellKeyed_rewriteOne {rules : List RewriteRule}
    (rulesKeyed : ∀ rule ∈ rules, rule.WellKeyed) (keyed : v.WellKeyed) :
    (rewriteOne rules v).WellKeyed := by
  unfold rewriteOne
  cases found : rules.findSome? (applyRule v) with
  | none => exact keyed
  | some w =>
    obtain ⟨rule, member, applied⟩ := List.exists_of_findSome?_eq_some found
    have ruleKeyed := rulesKeyed rule member
    unfold applyRule at applied
    split at applied
    · split at applied
      · cases applied
        exact ruleKeyed
      · cases applied
    · split at applied
      · split at applied
        · cases applied
          trivial
        · cases applied
      · cases applied

theorem wellKeyed_rewriteValue {rules : List RewriteRule}
    (rulesKeyed : ∀ rule ∈ rules, rule.WellKeyed) (keyed : v.WellKeyed) :
    (rewriteValue rules v).WellKeyed := by
  unfold rewriteValue
  split
  · split
    · exact keyed
    · rw [Value.wellKeyed_array_iff] at keyed ⊢
      intro item member
      obtain ⟨original, there, rfl⟩ := List.mem_map.1 member
      exact wellKeyed_rewriteOne rulesKeyed (keyed original there)
  · exact wellKeyed_rewriteOne rulesKeyed keyed

theorem wellKeyed_resolve (evaluateKeyed : evaluate.WellKeyed) (keyed : d.WellKeyed)
    {lenient : Bool} (recordKeyed : Record.WellKeyed record)
    (run : d.resolve evaluate lenient record = .ok (some v)) : v.WellKeyed := by
  -- Over the definitions of elements: each element is resolved as a record of its own.
  induction keyed generalizing lenient record v with
  | intro sources rules _ ih =>
    obtain ⟨_, _, coerced, coerce, collected⟩ := resolve_eq_some run
    have raw := wellKeyed_rawValue evaluateKeyed recordKeyed sources
    have coercedKeyed := Coercion.wellKeyed_coerce
      (wellKeyed_rewriteValue rules (wellKeyed_firstElement _ raw)) coerce
    rcases collected with ⟨rfl, _⟩ | ⟨nested, items, survivors, declared, rfl, mapped, rfl⟩
    · exact coercedKeyed
    · rw [Value.wellKeyed_array_iff] at coercedKeyed ⊢
      intro item member
      obtain ⟨survivor, there, kept⟩ := List.mem_filterMap.1 member
      obtain ⟨element, origin, resolved⟩ := Except.mem_of_mapM_eq_ok mapped survivor there
      rw [id_eq] at kept
      exact ih nested declared (Record.WellKeyed.single (coercedKeyed element origin))
        (kept ▸ resolved)

end AttributeDefinition

namespace Mapper

variable {evaluate : Evaluator} {record mapped : Record}

structure Image (m : Mapper) (mapped : Record) : Prop where
  distinct : Keyed.Distinct mapped
  declared : ∀ name v, (name, v) ∈ mapped → ∃ d ∈ m.definitions, d.name = name ∧
    d.ensure ≠ .absent ∧ v.isEmpty = false ∧ d.kind.Holds v

theorem mapAll_cons {d : AttributeDefinition} {ds : List AttributeDefinition}
    (run : mapAll evaluate record (d :: ds) = .ok mapped) :
    ∃ value rest, d.resolve evaluate false record = .ok value ∧
      mapAll evaluate record ds = .ok rest ∧
      mapped = (value.toList.map fun v => (d.name, v)) ++ rest := by
  obtain ⟨value, resolved, run⟩ := Except.bind_eq_ok run
  obtain ⟨rest, tail, run⟩ := Except.bind_eq_ok run
  refine ⟨value, rest, resolved, tail, ?_⟩
  cases value <;> cases run <;> rfl

theorem mem_mapAll {ds : List AttributeDefinition} (run : mapAll evaluate record ds = .ok mapped)
    {name : String} {v : Value} (member : (name, v) ∈ mapped) :
    ∃ d ∈ ds, d.name = name ∧ d.resolve evaluate false record = .ok (some v) := by
  induction ds generalizing mapped with
  | nil =>
    cases run
    cases member
  | cons d ds ih =>
    obtain ⟨value, rest, resolved, tail, rfl⟩ := mapAll_cons run
    rcases List.mem_append.1 member with first | later
    · obtain ⟨w, there, same⟩ := List.mem_map.1 first
      obtain ⟨rfl, rfl⟩ := Prod.mk.inj same
      exact ⟨d, List.mem_cons_self, rfl, Option.mem_toList.1 there ▸ resolved⟩
    · obtain ⟨e, there, named, holds⟩ := ih tail later
      exact ⟨e, List.mem_cons_of_mem d there, named, holds⟩

theorem keys_mapAll {ds : List AttributeDefinition} (run : mapAll evaluate record ds = .ok mapped) :
    (Keyed.keys mapped).Sublist (ds.map AttributeDefinition.name) := by
  induction ds generalizing mapped with
  | nil =>
    cases run
    exact List.Sublist.refl _
  | cons d ds ih =>
    obtain ⟨value, rest, _, tail, rfl⟩ := mapAll_cons run
    cases value with
    | none => exact (ih tail).cons _
    | some v => exact (ih tail).cons_cons _

theorem image_map {m : Mapper} (run : m.map evaluate record = .ok mapped) : m.Image mapped := by
  refine ⟨m.distinct.sublist (keys_mapAll run), ?_⟩
  intro name v member
  obtain ⟨d, there, named, resolved⟩ := mem_mapAll run member
  obtain ⟨present, nonempty, _⟩ := AttributeDefinition.resolve_eq_some resolved
  exact ⟨d, there, named, present, nonempty, AttributeDefinition.holds_resolve resolved⟩

theorem wellKeyed_map {m : Mapper} (evaluateKeyed : evaluate.WellKeyed) (keyed : m.WellKeyed)
    (recordKeyed : Record.WellKeyed record) (run : m.map evaluate record = .ok mapped) :
    Record.WellKeyed mapped := by
  rw [Record.wellKeyed_iff]
  refine ⟨(image_map run).distinct, ?_⟩
  intro entry member
  obtain ⟨d, there, _, resolved⟩ := mem_mapAll run member
  exact AttributeDefinition.wellKeyed_resolve evaluateKeyed (keyed d there) recordKeyed resolved

theorem eq_of_name_eq {m : Mapper} {d e : AttributeDefinition} (dMember : d ∈ m.definitions)
    (eMember : e ∈ m.definitions) (same : d.name = e.name) : d = e :=
  List.inj_on_of_nodup_map m.distinct dMember eMember same

theorem find?_of_mem {m : Mapper} {d : AttributeDefinition} (member : d ∈ m.definitions) :
    m.find? d.name = some d := by
  cases found : m.find? d.name with
  | none => simpa using List.find?_eq_none.1 found d member
  | some e =>
    have same : e.name = d.name := by simpa using List.find?_some found
    rw [eq_of_name_eq (List.mem_of_find?_eq_some found) member same]

namespace Image

variable {m : Mapper} {d : AttributeDefinition} {v : Value}

theorem of_get? (image : m.Image mapped) (member : d ∈ m.definitions)
    (found : Keyed.get? d.name mapped = some v) :
    d.ensure ≠ .absent ∧ v.isEmpty = false ∧ d.kind.Holds v := by
  obtain ⟨e, there, named, holds⟩ := image.declared _ _ (Keyed.mem_of_get? found)
  exact eq_of_name_eq there member named ▸ holds

theorem isArray_of_merge (image : m.Image mapped) (sound : m.Sound) (member : d ∈ m.definitions)
    (merges : d.ensure = .merge) (found : Keyed.get? d.name mapped = some v) :
    v.isArray = true := by
  have holds := (image.of_get? member found).2.2
  rw [(sound d member).merges_array merges] at holds
  cases holds
  rfl

theorem mem_names (image : m.Image mapped) {name : String}
    (found : Keyed.get? name mapped = some v) : name ∈ m.names := by
  obtain ⟨d, there, named, _⟩ := image.declared _ _ (Keyed.mem_of_get? found)
  exact List.mem_map.2 ⟨d, there, named⟩

end Image

end Mapper

end RecordSync
