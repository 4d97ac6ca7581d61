import RecordSync.Proofs.Convergence
import RecordSync.Proofs.Merging
import RecordSync.Proofs.Sameness
import RecordSync.Sync.Engine

set_option autoImplicit false

namespace RecordSync

def Matches (mapped : Record) (names : List String) (r : Record) : Prop :=
  ∀ name ∈ names, ∃ wanted found, Keyed.get? name mapped = some wanted ∧
    Keyed.get? name r = some found ∧ Filter.meets wanted found = true

namespace Filter

theorem acceptsAll_iff (r : Record) (filters : List Filter) :
    acceptsAll r filters = true ↔ ∀ f ∈ filters, f.accepts r = true := by
  induction filters with
  | nil => simp [acceptsAll]
  | cons f rest ih => simp [acceptsAll, ih]

theorem accepts_ofRecord (key r : Record) :
    (ofRecord key).accepts r = true ↔
      ∀ entry ∈ key, (Filter.equals entry.1 entry.2).accepts r = true := by
  unfold ofRecord
  split
  · simp
  · rw [accepts, acceptsAll_iff, List.forall_mem_map]

theorem accepts_equals_of_plain {name : String} (plain : Path.Plain name) (wanted : Value)
    (r : Record) :
    (Filter.equals name wanted).accepts r = true ↔
      ∃ found, Keyed.get? name r = some found ∧ meets wanted found = true := by
  rw [accepts, Path.getIn_of_plain plain]
  cases Keyed.get? name r <;> simp

theorem accepts_of_drawn {mapped key r : Record}
    (drawn : ∀ name v, (name, v) ∈ key → Keyed.get? name mapped = some v)
    (plain : ∀ name ∈ Keyed.keys key, Path.Plain name) :
    (ofRecord key).accepts r = true ↔ Matches mapped (Keyed.keys key) r := by
  rw [accepts_ofRecord]
  constructor
  · intro accepted name listed
    obtain ⟨⟨_, wanted⟩, member, rfl⟩ := List.mem_map.1 listed
    obtain ⟨found, there, met⟩ :=
      (accepts_equals_of_plain (plain _ listed) wanted r).1 (accepted _ member)
    exact ⟨wanted, found, drawn _ _ member, there, met⟩
  · intro matching entry member
    have listed := Keyed.mem_keys_of_mem member
    obtain ⟨wanted, found, said, there, met⟩ := matching entry.1 listed
    have same : entry.2 = wanted := Option.some.inj ((drawn _ _ member).symm.trans said)
    exact (accepts_equals_of_plain (plain _ listed) entry.2 r).2 ⟨found, there, same ▸ met⟩

theorem meets_self {v : Value} (keyed : v.WellKeyed) : meets v v = true := by
  have self := Value.agrees_self keyed
  cases v <;> exact self

theorem containedIn_of_meets {wanted found : Value} (array : wanted.isArray = true)
    (met : meets wanted found = true) :
    found.isArray = true ∧
      ∀ item ∈ wanted.elements, item.containedIn found.elements = true := by
  cases wanted with
  | array ys =>
    have agree : found.agrees (.array ys) = true := by
      cases found <;> exact met
    obtain ⟨xs, rfl⟩ := Value.eq_array_of_agrees agree
    exact ⟨rfl, Value.containedIn_of_agrees_array agree⟩
  | _ => cases array

end Filter

namespace Matches

variable {m : Mapper} {mapped r : Record} {names : List String}

theorem congr_names {others : List String} (same : ∀ name, name ∈ names ↔ name ∈ others) :
    Matches mapped names r ↔ Matches mapped others r :=
  ⟨fun matching name member => matching name ((same name).2 member),
    fun matching name member => matching name ((same name).1 member)⟩

theorem self (keyed : Record.WellKeyed mapped)
    (held : ∀ name ∈ names, ∃ v, Keyed.get? name mapped = some v) :
    Matches mapped names mapped := by
  intro name member
  obtain ⟨v, found⟩ := held name member
  exact ⟨v, v, found, found, Filter.meets_self (keyed.get? found)⟩

theorem carry {after : Record} (matching : Matches mapped names r)
    (kept : ∀ name ∈ names, ∀ wanted found, Keyed.get? name mapped = some wanted →
      Keyed.get? name r = some found → Filter.meets wanted found = true →
      ∃ found', Keyed.get? name after = some found' ∧ Filter.meets wanted found' = true) :
    Matches mapped names after := by
  intro name member
  obtain ⟨wanted, found, said, there, met⟩ := matching name member
  obtain ⟨found', there', met'⟩ := kept name member wanted found said there met
  exact ⟨wanted, found', said, there', met'⟩

theorem merge (plain : m.Plain) (sound : m.Sound) (image : m.Image mapped)
    (keyed : Record.WellKeyed mapped) (distinct : Keyed.Distinct r)
    (matching : Matches mapped names r) : Matches mapped names (m.merge mapped r) := by
  refine matching.carry fun name member wanted found said there met => ?_
  obtain ⟨d, declared, rfl⟩ := List.mem_map.1 (image.mem_names said)
  obtain ⟨present, nonempty, _⟩ := image.of_get? declared said
  rw [Mapper.get?_merge plain sound distinct declared, said, there]
  have incoming : (some wanted).filter (fun v => !v.isEmpty) = some wanted := by
    simp [nonempty]
  -- Overwriting puts what was searched by in place, and keeping or joining finds it there.
  cases ensure : d.ensure with
  | absent => exact absurd ensure present
  | latest => exact ⟨wanted, incoming, Filter.meets_self (keyed.get? said)⟩
  | present => exact ⟨found, rfl, met⟩
  | merge =>
    have array := image.isArray_of_merge sound declared ensure said
    obtain ⟨foundArray, contained⟩ := Filter.containedIn_of_meets array met
    refine ⟨found, ?_, met⟩
    simp only [Mapper.mergedValue, incoming]
    exact congrArg some (Value.union_of_contained foundArray contained)

theorem converged (sound : m.Sound) (image : m.Image mapped) (keyed : Record.WellKeyed mapped)
    (distinct : Keyed.Distinct r) (matching : Matches mapped names r) :
    Matches mapped names (m.converged mapped r) := by
  refine matching.carry fun name member wanted found said there met => ?_
  obtain ⟨d, declared, rfl⟩ := List.mem_map.1 (image.mem_names said)
  obtain ⟨present, nonempty, _⟩ := image.of_get? declared said
  have asked : Mapper.wanted? mapped d.name = some wanted := by
    simp [Mapper.wanted?, said, nonempty]
  rw [Mapper.get?_converged distinct declared, Mapper.changeOf, asked, there]
  cases ensure : d.ensure with
  | absent => exact absurd ensure present
  | present => exact ⟨found, rfl, met⟩
  | latest =>
    by_cases agree : wanted.agrees found = true
    · exact ⟨found, by simp [Mapper.change?, agree, Change.appliedTo], met⟩
    · refine ⟨wanted, ?_, Filter.meets_self (keyed.get? said)⟩
      simp [Mapper.change?, agree, Change.appliedTo, Change.applied]
  | merge =>
    -- A row that was found holds each element that was asked for, so none has to be added.
    have array := image.isArray_of_merge sound declared ensure said
    obtain ⟨_, contained⟩ := Filter.containedIn_of_meets array met
    have none : wanted.elements.filter (fun item => !item.containedIn found.elements) = [] := by
      simpa [List.filter_eq_nil_iff] using contained
    exact ⟨found, by simp [Mapper.change?, none, Change.appliedTo], met⟩

theorem of_same {other : Record} (keyed : Record.WellKeyed r) (otherKeyed : Record.WellKeyed other)
    (same : (Value.object other).same (.object r) = true) (matching : Matches mapped names r) :
    Matches mapped names other := by
  refine matching.carry fun name _ wanted found _ there met => ?_
  obtain ⟨found', there', alike⟩ := Value.same_object_get? otherKeyed.distinct same there
  have congr := Filter.meets_congr (otherKeyed.get? there') (keyed.get? there) alike wanted
  exact ⟨found', there', congr.trans met⟩

end Matches

namespace Workflow

variable {w : Workflow} {mapped key r : Record} {names : List String}

def Drawn (mapped : Record) (names : List String) (key : Record) : Prop :=
  (∀ name, name ∈ Keyed.keys key ↔ name ∈ names) ∧
    ∀ name v, (name, v) ∈ key → Keyed.get? name mapped = some v

theorem Drawn.held (drawn : Drawn mapped names key) :
    ∀ name ∈ names, ∃ v, Keyed.get? name mapped = some v := by
  intro name member
  obtain ⟨⟨_, v⟩, listed, rfl⟩ := List.mem_map.1 ((drawn.1 name).2 member)
  exact ⟨v, drawn.2 _ v listed⟩

theorem drawn_cons {name : String} {v : Value} (found : Keyed.get? name mapped = some v)
    (rest : Drawn mapped names key) : Drawn mapped (name :: names) ((name, v) :: key) := by
  refine ⟨fun other => ?_, fun other w member => ?_⟩
  · rw [Keyed.keys_cons, List.mem_cons, List.mem_cons, rest.1]
  · rcases List.mem_cons.1 member with same | member
    · obtain ⟨rfl, rfl⟩ := Prod.mk.inj same
      exact found
    · exact rest.2 other w member

theorem drawn_collect (drawn : Drawn mapped names key) :
    Drawn mapped names (Keyed.collect key) :=
  ⟨fun name => Keyed.mem_keys_collect.trans (drawn.1 name),
    fun name v member => drawn.2 name v (Keyed.mem_of_mem_collect member)⟩

theorem drawn_identity (run : identity mapped names = .ok key) : Drawn mapped names key := by
  induction names generalizing key with
  | nil =>
    cases run
    exact ⟨fun _ => Iff.rfl, fun _ _ member => nomatch member⟩
  | cons name names ih =>
    unfold identity at run
    split at run
    · cases run
    · rename_i v found
      obtain ⟨rest, tail, rfl⟩ := Except.map_eq_ok run
      exact drawn_cons found (ih tail)

theorem drawn_fullIdentity? (run : fullIdentity? mapped names = some key) :
    Drawn mapped names key := by
  induction names generalizing key with
  | nil =>
    cases run
    exact ⟨fun _ => Iff.rfl, fun _ _ member => nomatch member⟩
  | cons name names ih =>
    unfold fullIdentity? at run
    split at run
    · cases run
    · rename_i v found
      obtain ⟨rest, tail, rfl⟩ := Option.map_eq_some_iff.1 run
      exact drawn_cons (Option.filter_eq_some_iff.1 found).1 (ih tail)

theorem accepts_of_drawn (drawn : Drawn mapped names key)
    (plain : ∀ name ∈ names, Path.Plain name) :
    (Filter.ofRecord key).accepts r = true ↔ Matches mapped names r := by
  rw [Filter.accepts_of_drawn drawn.2 fun name listed => plain name ((drawn.1 name).1 listed)]
  exact Matches.congr_names drawn.1

theorem plain_identifiers (plain : w.mapper.Plain) (sound : w.mapper.Sound) :
    ∀ name ∈ w.identifiers, Path.Plain name := by
  intro name member
  obtain ⟨d, found, _⟩ := w.resolvable name member
  have named : d.name = name := by
    simpa using List.find?_some found
  exact named ▸ plain.path sound (List.mem_of_find?_eq_some found)

def searchNames (w : Workflow) (mapped : Record) : List String :=
  if w.identifiers.isEmpty then Keyed.keys mapped else w.identifiers

theorem drawn_rowFilter? (distinct : Keyed.Distinct mapped) (run : w.rowFilter? mapped = some key) :
    Drawn mapped (w.searchNames mapped) key := by
  unfold rowFilter? at run
  obtain ⟨run, _⟩ := Option.filter_eq_some_iff.1 run
  unfold searchNames
  split at run
  · rename_i empty
    cases run
    rw [if_pos empty]
    exact ⟨fun _ => Iff.rfl, fun _ _ member => Keyed.get?_of_mem distinct member⟩
  · rename_i listed
    obtain ⟨full, found, rfl⟩ := Option.map_eq_some_iff.1 run
    rw [if_neg listed]
    exact drawn_collect (drawn_fullIdentity? found)

theorem plain_searchNames (plain : w.mapper.Plain) (sound : w.mapper.Sound)
    (image : w.mapper.Image mapped) : ∀ name ∈ w.searchNames mapped, Path.Plain name := by
  unfold searchNames
  split
  · intro name listed
    obtain ⟨⟨_, v⟩, member, rfl⟩ := List.mem_map.1 listed
    obtain ⟨d, declared, named, _⟩ := image.declared _ v member
    exact named ▸ plain.path sound declared
  · exact plain_identifiers plain sound

end Workflow

end RecordSync
