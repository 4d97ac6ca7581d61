import RecordSync.Proofs.Mapping

set_option autoImplicit false

namespace RecordSync

namespace AttributeDefinition

variable {evaluate : Evaluator} {record : Record} {d : AttributeDefinition} {v : Value}
  {pattern : Pattern}

-- The value that a required pattern is tried on: the first element of what the sources say,
-- rewritten.
def tried (evaluate : Evaluator) (record : Record) (d : AttributeDefinition) : Value :=
  rewriteValue d.rewrite (firstElement d.kind (rawValue evaluate record d.sources))

theorem mismatch?_eq_none_iff (pattern : Pattern) (v : Value) :
    mismatch? (some pattern) v = none ↔
      ∀ item ∈ v.elements, pattern.accepts item.scalarText = true := by
  simp [mismatch?]

theorem tried_of_resolve {lenient : Bool}
    (run : d.resolve evaluate lenient record = .ok (some v)) :
    (d.tried evaluate record).isEmpty = false ∧
      mismatch? d.require (d.tried evaluate record) = none := by
  obtain ⟨name, sources, kind, ensure, required, rewrite, require, unwind, relation⟩ := d
  unfold resolve at run
  split at run
  · cases run
  · dsimp only at run
    split at run
    · exact absurd run leaveOut_ne_some
    · rename_i nonempty
      split at run
      · cases run
      · rename_i passed
        exact ⟨Bool.eq_false_iff.2 nonempty, passed⟩

theorem eq_scalarText_of_resolve {lenient : Bool} (text : d.kind = .string)
    (run : d.resolve evaluate lenient record = .ok (some v)) :
    v = .string (d.tried evaluate record).scalarText := by
  obtain ⟨_, _, coerced, coerce, unwound⟩ := resolve_eq_some run
  have plain : .string (d.tried evaluate record).scalarText = coerced := by
    rw [text] at coerce
    rw [tried, text]
    exact Except.ok.inj coerce
  rcases unwound with ⟨whole, _⟩ | ⟨_, items, _, _, array, _⟩
  · rw [whole, plain]
  · cases plain.trans array

theorem array_of_rewriteOne {rules : List RewriteRule} {items : List Value}
    (single : v.isArray = false) (array : rewriteOne rules v = .array items) :
    ∃ wanted, RewriteRule.whole wanted (.array items) ∈ rules := by
  unfold rewriteOne at array
  cases found : rules.findSome? (applyRule v) with
  | none =>
    rw [found] at array
    rw [show v = .array items from array] at single
    cases single
  | some w =>
    rw [found] at array
    obtain ⟨rule, member, applied⟩ := List.exists_of_findSome?_eq_some found
    rw [show w = .array items from array] at applied
    unfold applyRule at applied
    split at applied
    · split at applied <;> cases applied
      exact ⟨_, member⟩
    -- A pattern's replacement is text.
    · split at applied
      · split at applied <;> cases applied
      · cases applied

theorem array_of_firstElement {kind : Kind} {items : List Value} (single : kind ≠ .array)
    (array : firstElement kind v = .array items) : ∃ more, v = .array (.array items :: more) := by
  cases v with
  | array all =>
    rw [firstElement, if_neg single] at array
    cases all with
    | nil => cases array
    | cons item more => exact ⟨more, by rw [show item = .array items from array]⟩
  | _ => cases array

theorem array_of_tried {items : List Value} (single : d.kind ≠ .array)
    (array : d.tried evaluate record = .array items) :
    (∃ inner more, rawValue evaluate record d.sources = .array (.array inner :: more)) ∨
      ∃ wanted, RewriteRule.whole wanted (.array items) ∈ d.rewrite := by
  unfold tried at array
  cases first : firstElement d.kind (rawValue evaluate record d.sources) with
  | array inner =>
    obtain ⟨more, nested⟩ := array_of_firstElement single first
    exact Or.inl ⟨inner, more, nested⟩
  | _ =>
    rw [first] at array
    exact Or.inr (array_of_rewriteOne rfl array)

end AttributeDefinition

namespace Mapper

variable {m : Mapper} {d : AttributeDefinition} {evaluate : Evaluator} {record mapped : Record}
  {pattern : Pattern} {v : Value}

-- The string that an attribute is mapped to is the text of the value that its pattern was tried on.
-- The pattern accepts it, or it is the text of an array and the pattern accepts the text of each
-- element: the array stood in front in an array, or is the replacement of a rewrite rule.
theorem pattern_accepts_unless_array (run : m.map evaluate record = .ok mapped)
    (member : d ∈ m.definitions) (kind : d.kind = .string) (required : d.require = some pattern)
    (found : Keyed.get? d.name mapped = some v) :
    ∃ text, v = .string text ∧
      (pattern.accepts text = true ∨
        ∃ items, d.tried evaluate record = .array items ∧ text = (Value.array items).render ∧
          (∀ item ∈ items, pattern.accepts item.scalarText = true) ∧
          ((∃ inner more,
              AttributeDefinition.rawValue evaluate record d.sources = .array (.array inner :: more)) ∨
            ∃ wanted, RewriteRule.whole wanted (.array items) ∈ d.rewrite)) := by
  obtain ⟨e, there, named, resolved⟩ := mem_mapAll run (Keyed.mem_of_get? found)
  obtain rfl := eq_of_name_eq there member named
  have single : e.kind ≠ .array := by simp [kind]
  obtain ⟨nonempty, seen⟩ := AttributeDefinition.tried_of_resolve resolved
  rw [required, AttributeDefinition.mismatch?_eq_none_iff] at seen
  refine ⟨_, AttributeDefinition.eq_scalarText_of_resolve kind resolved, ?_⟩
  cases value : e.tried evaluate record with
  | array items =>
    rw [value] at seen
    exact Or.inr ⟨items, rfl, rfl, seen, AttributeDefinition.array_of_tried single value⟩
  | null =>
    rw [value] at nonempty
    cases nonempty
  | _ =>
    rw [value] at seen
    exact Or.inl (seen _ List.mem_cons_self)

def gradeSpecs : Record :=
  [("grade", .object [("from", .string "grades"), ("require", .string "^[a-z]$")])]

def letter : Pattern where
  text := "^[a-z]$"
  accepts text := match text.toList with
    | [c] => 'a' ≤ c ∧ c ≤ 'z'
    | _ => false
  replaceAll replacement text := match text.toList with
    | [c] => if 'a' ≤ c ∧ c ≤ 'z' then replacement else text
    | _ => text

def grade : AttributeDefinition :=
  ⟨"grade", [.path "grades"], .string, .latest, true, [], some letter, none, none⟩

def grades : Mapper := ⟨[grade], List.nodup_singleton _⟩

theorem ofRecord_grades : ofRecord (Pattern.among [letter]) gradeSpecs = .ok grades := rfl

theorem map_grades (source : Record) (v : Value) (more : List Value)
    (listed : AttributeDefinition.rawValue (fun _ _ => .ok .null) source [.path "grades"] =
      .array (v :: more)) (nonempty : v.isEmpty = false)
    (shown : (Value.string v.scalarText).isEmpty = false)
    (seen : ∀ item ∈ v.elements, letter.accepts item.scalarText = true) :
    grades.map (fun _ _ => .ok .null) source = .ok [("grade", .string v.scalarText)] := by
  have first : AttributeDefinition.rewriteValue []
      (AttributeDefinition.firstElement .string (.array (v :: more))) = v := by
    cases v <;> rfl
  have passed := (AttributeDefinition.mismatch?_eq_none_iff letter v).2 seen
  simp [grades, grade, map, mapAll, AttributeDefinition.resolve, listed, first, nonempty, shown,
    passed, Coercion.coerce]

theorem pattern_accepts_unless_array_for_grades :
    let source : Record := [("grades", .array [.string "b", .string "7"])]
    ∃ m mapped, ofRecord (Pattern.among [letter]) gradeSpecs = .ok m ∧
      m.map (fun _ _ => .ok .null) source = .ok mapped ∧ mapped = [("grade", .string "b")] ∧
      (letter.accepts "b" = true ∨ ∃ items, grade.tried (fun _ _ => .ok .null) source =
        .array items ∧ "b" = (Value.array items).render) := by
  intro source
  have seen : ∀ item ∈ (Value.string "b").elements, letter.accepts item.scalarText = true := by
    simp [Value.elements, Value.scalarText, letter]
  have run : grades.map (fun _ _ => .ok .null) source = .ok [("grade", .string "b")] :=
    map_grades source _ [.string "7"] (by decide +kernel) rfl (by decide +kernel) seen
  obtain ⟨text, same, accepted | ⟨items, array, rendered, _⟩⟩ := pattern_accepts_unless_array run
    List.mem_cons_self rfl rfl rfl
  · cases same
    exact ⟨_, _, ofRecord_grades, run, rfl, Or.inl accepted⟩
  · cases same
    exact ⟨_, _, ofRecord_grades, run, rfl, Or.inr ⟨items, array, rendered⟩⟩

-- A pattern for one letter passes a nested array of two, and does not accept its text.
theorem array_passes_required_pattern :
    let source : Record := [("grades", .array [.array [.string "a", .string "b"]])]
    let text := "[\"a\",\"b\"]"
    ∃ m mapped, ofRecord (Pattern.among [letter]) gradeSpecs = .ok m ∧
      m.map (fun _ _ => .ok .null) source = .ok mapped ∧
      Keyed.get? "grade" mapped = some (.string text) ∧
      ∃ d ∈ m.definitions, d.name = "grade" ∧ d.kind = .string ∧
        ∃ pattern, d.require = some pattern ∧ pattern.accepts text = false := by
  intro source text
  have seen : ∀ item ∈ (Value.array [.string "a", .string "b"]).elements,
      letter.accepts item.scalarText = true := by
    simp [Value.elements, Value.scalarText, letter]
  have shown : (Value.array [.string "a", .string "b"]).scalarText = text := by decide +kernel
  have run := map_grades source _ [] (by decide +kernel) rfl (by decide +kernel) seen
  rw [shown] at run
  have refused : letter.accepts text = false := by decide +kernel
  exact ⟨_, _, ofRecord_grades, run, rfl, _, List.mem_cons_self, rfl, rfl, letter, rfl, refused⟩

end Mapper

end RecordSync
