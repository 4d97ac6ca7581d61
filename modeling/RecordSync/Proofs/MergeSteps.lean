import RecordSync.Attribute.Merge
import RecordSync.Proofs.Agreement
import RecordSync.Proofs.PathChanges

set_option autoImplicit false

namespace RecordSync.Mapper

variable {d : AttributeDefinition} {ds : List AttributeDefinition} {mapped base : Record}

def Written (mapped base : Record) (name : String) (v : Value) : Prop :=
  ∃ w, Path.getIn mapped name = some w ∧ (v = w ∨ ∃ c, Path.getIn base name = some c ∧ v = c.union w)

def Settles (mapped base : Record) (name : String) (after : Record) : Prop :=
  after = base ∨ after = (Path.removeIn base name).1 ∨
    ∃ v previous, Written mapped base name v ∧ Path.setIn base name v = .ok (after, previous)

theorem settles_of_written {name : String} {v : Value} {after : Record}
    (written : Written mapped base name v)
    (failed : ∀ e, Path.setIn base name v = .error e → after = base)
    (wrote : ∀ changed previous, Path.setIn base name v = .ok (changed, previous) → after = changed) :
    Settles mapped base name after := by
  cases run : Path.setIn base name v with
  | error e => exact Or.inl (failed e run)
  | ok answer =>
    obtain rfl := wrote answer.1 answer.2 run
    exact Or.inr (Or.inr ⟨v, answer.2, written, run⟩)

theorem settles_mergeOne (mapped base : Record) (d : AttributeDefinition) :
    Settles mapped base d.name (mergeOne mapped base d) := by
  unfold mergeOne
  cases incoming : (Path.getIn mapped d.name).filter (fun v => !v.isEmpty) with
  | none =>
    cases d.ensure with
    | absent | latest => exact Or.inr (Or.inl rfl)
    | merge => exact Or.inl rfl
    | present =>
      cases Path.getIn base d.name with
      | none => exact Or.inr (Or.inl rfl)
      | some c => exact Or.inl rfl
  | some v =>
    have held := (Option.filter_eq_some_iff.1 incoming).1
    have whole : Written mapped base d.name v := ⟨v, held, Or.inl rfl⟩
    cases d.ensure with
    | absent => exact Or.inr (Or.inl rfl)
    | latest => apply settles_of_written whole <;> simp +contextual
    | merge =>
      cases current : Path.getIn base d.name with
      | none => apply settles_of_written whole <;> simp +contextual
      | some c =>
        apply settles_of_written ⟨v, held, Or.inr ⟨c, current, rfl⟩⟩ <;> simp +contextual
    | present =>
      cases Path.getIn base d.name with
      | none => apply settles_of_written whole <;> simp +contextual
      | some c => exact Or.inl rfl

theorem mergeOne_eq_or_edits (mapped base : Record) (d : AttributeDefinition) :
    mergeOne mapped base d = base ∨ ∃ parts put, Path.segments? d.name = some parts ∧
      Path.Edits put parts (.object base) (.object (mergeOne mapped base d)) ∧
      ∀ v, put = some v → Written mapped base d.name v := by
  rcases settles_mergeOne mapped base d with same | removed | ⟨v, previous, written, wrote⟩
  · exact Or.inl same
  · rw [removed]
    refine (Path.removeIn_eq_or_edits base d.name).imp_right ?_
    rintro ⟨parts, split, edits⟩
    exact ⟨parts, none, split, edits, nofun⟩
  · obtain ⟨parts, split, edits⟩ := Path.edits_of_setIn wrote
    exact Or.inr ⟨parts, some v, split, edits, by rintro _ ⟨⟩; exact written⟩

theorem Written.wellKeyed {name : String} {v : Value} (written : Written mapped base name v)
    (mappedKeyed : Record.WellKeyed mapped) (baseKeyed : Record.WellKeyed base) : v.WellKeyed := by
  obtain ⟨w, incoming, rfl | ⟨c, current, rfl⟩⟩ := written
  · exact Path.wellKeyed_getIn mappedKeyed incoming
  · exact (Path.wellKeyed_getIn baseKeyed current).union (Path.wellKeyed_getIn mappedKeyed incoming)

theorem wellKeyed_mergeOne (mappedKeyed : Record.WellKeyed mapped)
    (baseKeyed : Record.WellKeyed base) (d : AttributeDefinition) :
    Record.WellKeyed (mergeOne mapped base d) := by
  rcases mergeOne_eq_or_edits mapped base d with same | ⟨parts, put, _, edits, written⟩
  · rwa [same]
  · exact edits.wellKeyed baseKeyed fun v new => (written v new).wellKeyed mappedKeyed baseKeyed

theorem wellKeyed_foldl (mappedKeyed : Record.WellKeyed mapped)
    (baseKeyed : Record.WellKeyed base) (ds : List AttributeDefinition) :
    Record.WellKeyed (ds.foldl (mergeOne mapped) base) := by
  induction ds generalizing base with
  | nil => exact baseKeyed
  | cons d ds ih => exact ih (wellKeyed_mergeOne mappedKeyed baseKeyed d)

theorem wellKeyed_merge (mappedKeyed : Record.WellKeyed mapped) (baseKeyed : Record.WellKeyed base)
    (m : Mapper) : Record.WellKeyed (m.merge mapped base) :=
  wellKeyed_foldl mappedKeyed baseKeyed m.definitions

end RecordSync.Mapper
