import RecordSync.Proofs.Contents
import RecordSync.Proofs.Matching
import RecordSync.Proofs.Symmetry

set_option autoImplicit false

namespace RecordSync

def SameIdentity (names : List String) (x y : Record) : Prop :=
  ∀ name ∈ names, ∃ a b, Keyed.get? name x = some a ∧ Keyed.get? name y = some b ∧
    a.agrees b = true

theorem Kind.Holds.wellKeyed {kind : Kind} {v : Value} (holds : kind.Holds v)
    (single : kind ≠ .array) : v.WellKeyed := by
  cases holds with
  | binary s => exact Record.WellKeyed.single (Value.wellKeyed_string s)
  | array items => exact absurd rfl single
  | _ => trivial

namespace Workflow

def Scalar (w : Workflow) : Prop :=
  ∀ d ∈ w.mapper.definitions, d.name ∈ w.identifiers → d.kind ≠ .array

def Identifiable (w : Workflow) (r : Record) : Prop :=
  ∀ d ∈ w.mapper.definitions, d.name ∈ w.identifiers →
    ∃ v, Keyed.get? d.name r = some v ∧ v.isEmpty = false ∧ d.kind.Holds v

variable {w : Workflow} {mapped r x y z : Record}

theorem declared_identifier {name : String} (member : name ∈ w.identifiers) :
    ∃ d ∈ w.mapper.definitions, d.name = name ∧ d.ensure ≠ .absent := by
  obtain ⟨d, found, present⟩ := w.resolvable name member
  exact ⟨d, List.mem_of_find?_eq_some found, by simpa using List.find?_some found, present⟩

theorem sameIdentity_iff (xTyped : w.Identifiable x) (yTyped : w.Identifiable y) :
    SameIdentity w.identifiers x y ↔
      ∀ d ∈ w.mapper.definitions, d.name ∈ w.identifiers →
        ∃ a b, Keyed.get? d.name x = some a ∧ Keyed.get? d.name y = some b ∧ d.kind.Holds a ∧
          d.kind.Holds b ∧ a.agrees b = true := by
  constructor
  · intro same d declared listed
    obtain ⟨a, aFound, _, aHolds⟩ := xTyped d declared listed
    obtain ⟨b, bFound, _, bHolds⟩ := yTyped d declared listed
    obtain ⟨a', b', aSame, bSame, agree⟩ := same d.name listed
    cases aFound.symm.trans aSame
    cases bFound.symm.trans bSame
    exact ⟨a, b, aFound, bFound, aHolds, bHolds, agree⟩
  · intro typed name listed
    obtain ⟨d, declared, rfl, _⟩ := declared_identifier listed
    obtain ⟨a, b, aFound, bFound, _, _, agree⟩ := typed d declared listed
    exact ⟨a, b, aFound, bFound, agree⟩

section Equivalence

variable (scalar : w.Scalar)

include scalar

theorem sameIdentity_refl (typed : w.Identifiable x) : SameIdentity w.identifiers x x := by
  rw [sameIdentity_iff typed typed]
  intro d declared listed
  obtain ⟨v, found, _, holds⟩ := typed d declared listed
  have keyed := holds.wellKeyed (scalar d declared listed)
  exact ⟨v, v, found, found, holds, holds, Value.agrees_self keyed⟩

theorem sameIdentity_symm (xTyped : w.Identifiable x) (yTyped : w.Identifiable y)
    (same : SameIdentity w.identifiers x y) : SameIdentity w.identifiers y x := by
  rw [sameIdentity_iff xTyped yTyped] at same
  rw [sameIdentity_iff yTyped xTyped]
  intro d declared listed
  obtain ⟨a, b, aFound, bFound, aHolds, bHolds, agree⟩ := same d declared listed
  have single := scalar d declared listed
  exact ⟨b, a, bFound, aFound, bHolds, aHolds,
    Value.agrees_symm (aHolds.wellKeyed single) (bHolds.wellKeyed single) ▸ agree⟩

theorem sameIdentity_trans (xTyped : w.Identifiable x) (yTyped : w.Identifiable y)
    (zTyped : w.Identifiable z) (first : SameIdentity w.identifiers x y)
    (second : SameIdentity w.identifiers y z) : SameIdentity w.identifiers x z := by
  rw [sameIdentity_iff xTyped yTyped] at first
  rw [sameIdentity_iff yTyped zTyped] at second
  rw [sameIdentity_iff xTyped zTyped]
  intro d declared listed
  obtain ⟨a, b, aFound, bFound, aHolds, bHolds, agree⟩ := first d declared listed
  obtain ⟨b', c, bSame, cFound, _, cHolds, agree'⟩ := second d declared listed
  cases bFound.symm.trans bSame
  exact ⟨a, c, aFound, cFound, aHolds, cHolds,
    Kind.Holds.agrees_trans (scalar d declared listed) aHolds bHolds cHolds agree agree'⟩

theorem matches_iff_sameIdentity (typed : w.Identifiable r) :
    Matches mapped w.identifiers r ↔ SameIdentity w.identifiers r mapped := by
  constructor
  · intro matching name listed
    obtain ⟨wanted, found, said, there, met⟩ := matching name listed
    obtain ⟨d, declared, rfl, _⟩ := declared_identifier listed
    obtain ⟨v, vFound, _, holds⟩ := typed d declared listed
    cases there.symm.trans vFound
    rw [Filter.meets_of_not_array (holds.isArray_eq_false (scalar d declared listed))] at met
    exact ⟨found, wanted, there, said, met⟩
  · intro same name listed
    obtain ⟨found, wanted, there, said, agree⟩ := same name listed
    obtain ⟨d, declared, rfl, _⟩ := declared_identifier listed
    obtain ⟨v, vFound, _, holds⟩ := typed d declared listed
    cases there.symm.trans vFound
    refine ⟨wanted, found, said, there, ?_⟩
    rw [Filter.meets_of_not_array (holds.isArray_eq_false (scalar d declared listed))]
    exact agree

theorem sameIdentity_merge (plain : w.mapper.Plain) (sound : w.mapper.Sound)
    (distinct : Keyed.Distinct r) (typed : w.Identifiable r) (mappedTyped : w.Identifiable mapped)
    (same : SameIdentity w.identifiers r mapped) :
    w.Identifiable (w.mapper.merge mapped r) ∧
      SameIdentity w.identifiers r (w.mapper.merge mapped r) := by
  have kept : ∀ d ∈ w.mapper.definitions, d.name ∈ w.identifiers →
      ∃ a v, Keyed.get? d.name r = some a ∧
        Keyed.get? d.name (w.mapper.merge mapped r) = some v ∧ v.isEmpty = false ∧
        d.kind.Holds v ∧ a.agrees v = true := by
    intro d declared listed
    have single := scalar d declared listed
    obtain ⟨a, aFound, aFull, aHolds⟩ := typed d declared listed
    obtain ⟨v, vFound, vFull, vHolds⟩ := mappedTyped d declared listed
    obtain ⟨a', v', aSame, vSame, agree⟩ := same d.name listed
    cases aFound.symm.trans aSame
    cases vFound.symm.trans vSame
    rw [Mapper.get?_merge plain sound distinct declared, aFound, vFound]
    cases ensure : d.ensure with
    | absent =>
      obtain ⟨e, there, named, present⟩ := declared_identifier listed
      exact absurd ensure (Mapper.eq_of_name_eq there declared named ▸ present)
    | present => exact ⟨a, a, rfl, rfl, aFull, aHolds, Value.agrees_self (aHolds.wellKeyed single)⟩
    | latest => exact ⟨a, v, rfl, by simp [Mapper.mergedValue, vFull], vFull, vHolds, agree⟩
    -- Only arrays are joined, and no identifier is one.
    | merge => exact absurd ((sound d declared).merges_array ensure) single
  refine ⟨fun d declared listed => ?_, fun name listed => ?_⟩
  · obtain ⟨_, v, _, vFound, full, holds, _⟩ := kept d declared listed
    exact ⟨v, vFound, full, holds⟩
  · obtain ⟨d, declared, rfl, _⟩ := declared_identifier listed
    obtain ⟨a, v, aFound, vFound, _, _, agree⟩ := kept d declared listed
    exact ⟨a, v, aFound, vFound, agree⟩

end Equivalence

theorem identifiable_of_image (image : w.mapper.Image mapped)
    (held : ∀ name ∈ w.identifiers, ∃ v, Keyed.get? name mapped = some v) :
    w.Identifiable mapped := by
  intro d declared listed
  obtain ⟨v, found⟩ := held d.name listed
  obtain ⟨_, full, holds⟩ := image.of_get? declared found
  exact ⟨v, found, full, holds⟩

structure Distinguished (w : Workflow) (contents : List ObjectContent) : Prop where
  distinct : ∀ o ∈ contents, o.collection = w.collection → Keyed.Distinct o.data
  typed : ∀ o ∈ contents, o.collection = w.collection → w.Identifiable o.data
  apart : ∀ a ∈ contents, ∀ b ∈ contents, a.collection = w.collection →
    b.collection = w.collection → a.id ≠ b.id → ¬ SameIdentity w.identifiers a.data b.data

namespace Distinguished

variable {contents : List ObjectContent}

theorem of_empty (empty : ∀ o ∈ contents, o.collection ≠ w.collection) : w.Distinguished contents :=
  ⟨fun o member named => absurd named (empty o member),
    fun o member named => absurd named (empty o member),
    fun a member _ _ named => absurd named (empty a member)⟩

theorem filter (known : w.Distinguished contents) (keep : ObjectContent → Bool) :
    w.Distinguished (contents.filter keep) := by
  have kept {o : ObjectContent} (member : o ∈ contents.filter keep) : o ∈ contents :=
    (List.mem_filter.1 member).1
  exact ⟨fun o member => known.distinct o (kept member),
    fun o member => known.typed o (kept member),
    fun a aMember b bMember => known.apart a (kept aMember) b (kept bMember)⟩

section Scalar

variable (scalar : w.Scalar)

include scalar

theorem append {o : ObjectContent} (known : w.Distinguished contents)
    (distinct : Keyed.Distinct o.data) (typed : w.Identifiable o.data)
    (fresh : ∀ a ∈ contents, a.collection = w.collection →
      ¬ SameIdentity w.identifiers a.data o.data) : w.Distinguished (contents ++ [o]) := by
  refine ⟨fun a member named => ?_, fun a member named => ?_, ?_⟩
  · rcases List.mem_append.1 member with old | new
    · exact known.distinct a old named
    · exact List.mem_singleton.1 new ▸ distinct
  · rcases List.mem_append.1 member with old | new
    · exact known.typed a old named
    · exact List.mem_singleton.1 new ▸ typed
  · intro a aMember b bMember aNamed bNamed differ same
    rcases List.mem_append.1 aMember with aOld | aNew <;>
      rcases List.mem_append.1 bMember with bOld | bNew
    · exact known.apart a aOld b bOld aNamed bNamed differ same
    · cases List.mem_singleton.1 bNew
      exact fresh a aOld aNamed same
    · cases List.mem_singleton.1 aNew
      exact fresh b bOld bNamed (sameIdentity_symm scalar typed (known.typed b bOld bNamed) same)
    · cases List.mem_singleton.1 aNew
      cases List.mem_singleton.1 bNew
      exact differ rfl

theorem written {id : ObjectId} {data : Record} (known : w.Distinguished contents)
    (distinct : Keyed.Distinct data) (typed : w.Identifiable data)
    (same : ∀ o ∈ contents, o.id = id → o.collection = w.collection →
      SameIdentity w.identifiers o.data data) :
    w.Distinguished (contents.map fun o => o.written id data) := by
  -- Each object is of the identity of the one that it was.
  have before : ∀ a ∈ contents.map (fun o => o.written id data), a.collection = w.collection →
      Keyed.Distinct a.data ∧ w.Identifiable a.data ∧ ∃ o ∈ contents, o.id = a.id ∧
        o.collection = w.collection ∧ SameIdentity w.identifiers o.data a.data := by
    intro a member named
    obtain ⟨o, there, rfl⟩ := List.mem_map.1 member
    by_cases hit : o.id = id
    · have shape : o.written id data = { o with data := data } := if_pos hit
      rw [shape] at named ⊢
      exact ⟨distinct, typed, o, there, rfl, named, same o there hit named⟩
    · have shape : o.written id data = o := if_neg hit
      rw [shape] at named ⊢
      have oTyped := known.typed o there named
      exact ⟨known.distinct o there named, oTyped, o, there, rfl, named,
        sameIdentity_refl scalar oTyped⟩
  refine ⟨fun a member named => (before a member named).1,
    fun a member named => (before a member named).2.1, ?_⟩
  intro a aMember b bMember aNamed bNamed differ alike
  obtain ⟨_, aTyped, x, xThere, xId, xNamed, toA⟩ := before a aMember aNamed
  obtain ⟨_, bTyped, y, yThere, yId, yNamed, toB⟩ := before b bMember bNamed
  have xTyped := known.typed x xThere xNamed
  have yTyped := known.typed y yThere yNamed
  -- Two that were made alike were alike before: along the identities from `x` over `a`, `b` to `y`.
  have toY := sameIdentity_trans scalar aTyped bTyped yTyped alike
    (sameIdentity_symm scalar yTyped bTyped toB)
  refine known.apart x xThere y yThere xNamed yNamed ?_
    (sameIdentity_trans scalar xTyped aTyped yTyped toA toY)
  rw [xId, yId]
  exact differ

end Scalar

end Distinguished

end Workflow

end RecordSync
