import RecordSync.Proofs.RequiredPatterns

set_option autoImplicit false

namespace RecordSync

namespace AttributeDefinition

variable {evaluate : Evaluator} {record : Record} {d : AttributeDefinition} {v : Value}
  {lenient : Bool}

-- A value of the declared type with the elements of an array unwound, if there is a definition for
-- them.
def unwound (evaluate : Evaluator) (d : AttributeDefinition) : Value → Except MappingError Value
  | .array items =>
    match d.unwind with
    | some nested => do
      let survivors ← items.mapM fun item => nested.resolve evaluate true [(unwindKey, item)]
      return .array (survivors.filterMap id)
    | none => .ok (.array items)
  | v => .ok v

theorem unwound_of_single (single : v.isArray = false) : d.unwound evaluate v = .ok v := by
  cases v with
  | array items => cases single
  | _ => rfl

theorem resolve_eq (present : d.ensure ≠ .absent) :
    d.resolve evaluate lenient record =
      if (d.tried evaluate record).isEmpty then leaveOut d.name d.required lenient
      else
        match mismatch? d.require (d.tried evaluate record) with
        | some fault => .error (.resolution d.name fault)
        | none =>
          match Coercion.coerce d.kind (d.tried evaluate record) with
          | .error e => .error (.resolution d.name (.uncoercible e))
          | .ok v => (d.unwound evaluate v).bind fun v =>
            if v.isEmpty then leaveOut d.name d.required lenient else .ok (some v) := by
  obtain ⟨name, sources, kind, ensure, required, rewrite, require, unwind, relation⟩ := d
  unfold resolve tried
  dsimp only at present ⊢
  rw [if_neg present]
  generalize rewriteValue rewrite (firstElement kind (rawValue evaluate record sources)) = tried
  cases tried.isEmpty with
  | true => simp
  | false =>
    cases mismatch? require tried with
    | some fault => rfl
    | none =>
      cases Coercion.coerce kind tried with
      | error e => rfl
      | ok v =>
        cases unwind with
        | none => cases v <;> rfl
        | some nested =>
          cases v with
          | array items =>
            unfold unwound
            dsimp only
            cases items.mapM fun item => nested.resolve evaluate true [(unwindKey, item)] <;> rfl
          | _ => rfl

theorem resolve_of_absent (absent : d.ensure = .absent) :
    d.resolve evaluate lenient record = .ok none := by
  obtain ⟨name, sources, kind, ensure, required, rewrite, require, unwind, relation⟩ := d
  unfold resolve
  exact if_pos absent

theorem resolve_of_coerced (present : d.ensure ≠ .absent)
    (nonempty : (d.tried evaluate record).isEmpty = false)
    (passed : mismatch? d.require (d.tried evaluate record) = none)
    (coerced : Coercion.coerce d.kind (d.tried evaluate record) = .ok v)
    (single : v.isArray = false) (kept : v.isEmpty = false) :
    d.resolve evaluate lenient record = .ok (some v) := by
  rw [resolve_eq present, nonempty, passed, coerced]
  dsimp only
  rw [unwound_of_single single]
  show (if v.isEmpty then _ else _) = _
  rw [kept]
  rfl

theorem firstElement_of_single {kind : Kind} (single : v.isArray = false) :
    firstElement kind v = v := by
  cases v with
  | array items => cases single
  | _ => rfl

theorem rewriteValue_nil (v : Value) : rewriteValue [] v = v := by
  cases v <;> rfl

theorem rawValue_of_path {path : String} (found : Path.getIn record path = some v) :
    rawValue evaluate record [.path path] = v := by
  simp [rawValue, consult, found]

theorem tried_of_path {path : String} (source : d.sources = [.path path]) (plain : d.rewrite = [])
    (found : Path.getIn record path = some v) :
    d.tried evaluate record = firstElement d.kind v := by
  rw [tried, source, plain, rawValue_of_path found, rewriteValue_nil]

end AttributeDefinition

namespace Mapper

def alone (d : AttributeDefinition) : Mapper := ⟨[d], List.nodup_singleton _⟩

theorem map_alone (d : AttributeDefinition) (evaluate : Evaluator) (record : Record) :
    (alone d).map evaluate record =
      (d.resolve evaluate false record).map fun v => (v.map (d.name, ·)).toList := by
  show mapAll evaluate record [d] = _
  unfold mapAll mapAll
  cases d.resolve evaluate false record with
  | error e => rfl
  | ok v => cases v <;> rfl

theorem map_of_coerced {d : AttributeDefinition} {evaluate : Evaluator} {record : Record}
    {v : Value} (present : d.ensure ≠ .absent)
    (nonempty : (d.tried evaluate record).isEmpty = false)
    (passed : AttributeDefinition.mismatch? d.require (d.tried evaluate record) = none)
    (coerced : Coercion.coerce d.kind (d.tried evaluate record) = .ok v)
    (single : v.isArray = false) (kept : v.isEmpty = false) :
    (alone d).map evaluate record = .ok [(d.name, v)] := by
  rw [map_alone,
    AttributeDefinition.resolve_of_coerced present nonempty passed coerced single kept]
  rfl

end Mapper

end RecordSync
