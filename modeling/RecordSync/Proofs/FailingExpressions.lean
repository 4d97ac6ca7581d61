import RecordSync.Proofs.Conformance
import RecordSync.Proofs.LoneAttributes

set_option autoImplicit false

namespace RecordSync

def Evaluator.Fails (evaluate : Evaluator) : Prop :=
  ∀ code context, ∃ e, evaluate code context = .error e

def Source.isExpression : Source → Bool
  | .expression _ => true
  | .literal _ | .path _ => false

namespace AttributeDefinition

-- Definitions for the elements of an array lose their expressions too.
def withoutExpressions : AttributeDefinition → AttributeDefinition
  | ⟨name, sources, kind, ensure, required, rewrite, require, unwind, relation⟩ =>
    ⟨name, sources.filter fun source => !source.isExpression, kind, ensure, required, rewrite, require,
      match unwind with
      | some nested => some nested.withoutExpressions
      | none => none, relation⟩

variable {failing evaluate : Evaluator} {record : Record} {d : AttributeDefinition} {v : Value}

theorem withoutExpressions_eq (d : AttributeDefinition) : d.withoutExpressions =
    { d with
      sources := d.sources.filter fun source => !source.isExpression
      unwind := d.unwind.map withoutExpressions } := by
  obtain ⟨name, sources, kind, ensure, required, rewrite, require, unwind, relation⟩ := d
  cases unwind <;> rfl

theorem rawValue_withoutExpressions (fails : failing.Fails) (sources : List Source) :
    rawValue evaluate record (sources.filter fun source => !source.isExpression) =
      rawValue failing record sources := by
  unfold rawValue
  rw [List.foldl_filter]
  congr 1
  funext before source
  cases source with
  | literal v => rfl
  | path path => rfl
  | expression code =>
    obtain ⟨e, failed⟩ := fails code record
    simp [Source.isExpression, consult, failed]

theorem tried_withoutExpressions (fails : failing.Fails) (d : AttributeDefinition) :
    d.withoutExpressions.tried evaluate record = d.tried failing record := by
  rw [withoutExpressions_eq, tried, tried, rawValue_withoutExpressions fails]

theorem unwound_withoutExpressions
    (elements : ∀ nested, d.unwind = some nested → ∀ record,
      nested.withoutExpressions.resolve evaluate true record = nested.resolve failing true record)
    (v : Value) : d.withoutExpressions.unwound evaluate v = d.unwound failing v := by
  cases v with
  | array items =>
    rw [withoutExpressions_eq, unwound, unwound]
    cases declared : d.unwind with
    | none => rfl
    | some nested => simp only [Option.map_some, elements nested declared]
  | _ => rfl

theorem resolve_withoutExpressions (fails : failing.Fails) (lenient : Bool) :
    d.withoutExpressions.resolve evaluate lenient record = d.resolve failing lenient record := by
  -- Each element is resolved in a context of its own, so the record changes on the way down.
  induction d using induction generalizing lenient record with
  | step d ih =>
    by_cases absent : d.ensure = .absent
    · rw [resolve_of_absent absent, resolve_of_absent (by rw [withoutExpressions_eq, absent])]
    · rw [resolve_eq absent, resolve_eq (by rwa [withoutExpressions_eq])]
      have unwound (v : Value) : d.withoutExpressions.unwound evaluate v = d.unwound failing v :=
        unwound_withoutExpressions (fun nested declared record => ih nested declared true) v
      simp only [tried_withoutExpressions fails, unwound]
      simp only [withoutExpressions_eq]

end AttributeDefinition

namespace Mapper

variable {failing evaluate : Evaluator} {record : Record}

def withoutExpressions (m : Mapper) : Mapper where
  definitions := m.definitions.map AttributeDefinition.withoutExpressions
  distinct := by
    simpa [Function.comp_def, AttributeDefinition.withoutExpressions_eq] using m.distinct

theorem mapAll_withoutExpressions (fails : failing.Fails) (ds : List AttributeDefinition) :
    mapAll evaluate record (ds.map AttributeDefinition.withoutExpressions) =
      mapAll failing record ds := by
  induction ds with
  | nil => rfl
  | cons d ds ih =>
    have name : d.withoutExpressions.name = d.name := by
      rw [AttributeDefinition.withoutExpressions_eq]
    rw [List.map_cons, mapAll, mapAll, ih, name,
      AttributeDefinition.resolve_withoutExpressions fails]

-- Where every expression fails, a record is mapped, or refused with the same error, as if none were
-- declared.
theorem failing_expressions_count_as_undeclared (m : Mapper) (fails : failing.Fails)
    (evaluate : Evaluator) (record : Record) :
    m.map failing record = m.withoutExpressions.map evaluate record :=
  (mapAll_withoutExpressions fails m.definitions).symm

theorem failing_expressions_count_as_undeclared_for_tags :
    let specs : Record :=
      [("name", .object [("value", .string "nobody"), ("from", .string "login"),
        ("expression", .string "upper(login)")]),
      ("tags", .object [("from", .string "tags"), ("type", .string "array"),
        ("unwind", .object [("from", .string "root"), ("expression", .string "trim(root)")])])]
    let failing : Evaluator := fun _ _ => .error (.runtime "")
    let answering : Evaluator := fun _ _ => .ok (.string "z")
    let tags (items : List String) : String × Value := ("tags", .array (items.map .string))
    let record : Record := [("login", .string "ann"), tags ["a", "b"]]
    ∃ m, ofRecord (Pattern.among []) specs = .ok m ∧ failing.Fails ∧
      m.map failing record = .ok [("name", .string "ann"), tags ["a", "b"]] ∧
      m.map answering record = .ok [("name", .string "z"), tags ["z", "z"]] := by
  intro specs failing answering tags record
  let name : AttributeDefinition :=
    ⟨"name", [.literal (.string "nobody"), .path "login", .expression "upper(login)"], .string,
      .latest, true, [], none, none, none⟩
  let tag : AttributeDefinition :=
    ⟨"tags", [.path "root", .expression "trim(root)"], .string, .latest, true, [], none, none, none⟩
  let m : Mapper :=
    ⟨[name, ⟨"tags", [.path "tags"], .array, .latest, true, [], none, some tag, none⟩], by decide⟩
  have fails : failing.Fails := fun _ _ => ⟨_, rfl⟩
  refine ⟨m, rfl, fails, ?_, Numeral.of_toOption_eq_some (by decide +kernel)⟩
  rw [failing_expressions_count_as_undeclared m fails answering record]
  exact Numeral.of_toOption_eq_some (by decide +kernel)

end Mapper

end RecordSync
