import Mathlib.Data.List.Nodup
import RecordSync.Proofs.KeyedDocuments
import RecordSync.Store.Basic

set_option autoImplicit false

namespace RecordSync

structure ObjectContent where
  id : ObjectId
  collection : String
  data : Record

def ObjectContent.answers (o : ObjectContent) (collection : String) (filter : Filter) : Bool :=
  o.collection = collection && filter.accepts o.data

def ObjectContent.written (o : ObjectContent) (id : ObjectId) (data : Record) : ObjectContent :=
  if o.id = id then { o with data := data } else o

def CanonicalObject.content (o : CanonicalObject) : ObjectContent := ⟨o.id, o.collection, o.data⟩

@[simp] theorem CanonicalObject.content_withSeed (o : CanonicalObject) (seed : Option StatusSeed) :
    (o.withSeed seed).content = o.content := by
  cases seed <;> rfl

structure CanonicalObject.Rewritten (x : CanonicalObject) (data : Record) (seed : StatusSeed)
    (y : CanonicalObject) : Prop where
  id : y.id = x.id
  collection : y.collection = x.collection
  data : y.data = data
  version : y.version = x.version + 1
  status : y.statusFor seed.endpoint = some seed.status
  others : ∀ endpoint, endpoint ≠ seed.endpoint → y.statusFor endpoint = x.statusFor endpoint

theorem Lookup.map_ofMatches {α β : Type} (f : α → β) (xs : List α) :
    (Lookup.ofMatches xs).map f = Lookup.ofMatches (xs.map f) := by
  match xs with
  | [] | [_] => rfl
  | _ :: _ :: _ => simp [Lookup.ofMatches, Lookup.map]

def Lookup.Answers {α : Type} (found : Lookup α) : Option α → Prop
  | some a => found = .found a
  | none => found = .notFound

theorem Lookup.ofMatches_ne_unresolvable {α : Type} {xs : List α} :
    Lookup.ofMatches xs ≠ .unresolvable := by
  unfold ofMatches
  split <;> simp

namespace Store

def contents (s : Store) : List ObjectContent := s.objects.map CanonicalObject.content

def matching (s : Store) (collection : String) (filter : Filter) : List ObjectContent :=
  s.contents.filter fun o => o.answers collection filter

structure UniqueObjects (s : Store) : Prop where
  ids : (s.objects.map CanonicalObject.id).Nodup
  below : ∀ o ∈ s.objects, o.id.number < s.nextObject

structure UniqueRelations (s : Store) : Prop where
  ids : (s.relations.map Relation.id).Nodup
  below : ∀ r ∈ s.relations, r.id.number < s.nextRelation

structure WellFormed (s : Store) : Prop where
  objects : s.UniqueObjects
  relations : s.UniqueRelations
  data : ∀ o ∈ s.objects, Record.WellKeyed o.data

def Has (s : Store) (id : ObjectId) : Prop := ∃ o ∈ s.objects, o.id = id

-- Nothing differs but one object, which was rewritten.
def Rewrites (x : CanonicalObject) (data : Record) (seed : StatusSeed) (s t : Store) : Prop :=
  ∃ y, x.Rewritten data seed y ∧
    t = { s with objects := s.objects.map fun o => if o.id = x.id then y else o }

variable {s t : Store} {collection : String} {filter : Filter} {id : ObjectId} {data : Record}
  {seed : Option StatusSeed}

theorem map_content_filter (s : Store) (collection : String) (filter : Filter) :
    ((s.inCollection collection).filter fun o => filter.accepts o.data).map
      CanonicalObject.content = s.matching collection filter := by
  unfold inCollection matching contents ObjectContent.answers
  rw [List.filter_filter, List.filter_map]
  congr 1
  apply List.filter_congr
  intro o _
  exact Bool.and_comm _ _

theorem map_lookup (s : Store) (collection : String) (filter : Filter) :
    (s.lookup collection filter).map CanonicalObject.content =
      Lookup.ofMatches (s.matching collection filter) := by
  rw [lookup, Lookup.map_ofMatches, map_content_filter]

theorem lookup_eq_found {o : CanonicalObject} (found : s.lookup collection filter = .found o) :
    o ∈ s.objects ∧ o.collection = collection ∧ filter.accepts o.data = true ∧
      s.matching collection filter = [o.content] := by
  have only := (Lookup.ofMatches_eq_found_iff _ o).1 found
  have member : o ∈ (s.inCollection collection).filter fun o => filter.accepts o.data := by
    rw [only]
    exact List.mem_singleton_self o
  obtain ⟨inside, accepted⟩ := List.mem_filter.1 member
  obtain ⟨stored, named⟩ := List.mem_filter.1 inside
  refine ⟨stored, of_decide_eq_true named, accepted, ?_⟩
  rw [← map_content_filter, only]
  rfl

theorem lookup_eq_notFound_iff :
    s.lookup collection filter = .notFound ↔ s.matching collection filter = [] := by
  rw [lookup, Lookup.ofMatches_eq_notFound_iff, ← map_content_filter, List.map_eq_nil_iff]

theorem lookup_ne_unresolvable : s.lookup collection filter ≠ .unresolvable :=
  Lookup.ofMatches_ne_unresolvable

theorem exists_found_of_matching {o : ObjectContent} (only : s.matching collection filter = [o]) :
    ∃ object ∈ s.objects, s.lookup collection filter = .found object ∧ object.content = o := by
  have mapped := map_lookup s collection filter
  rw [only] at mapped
  cases found : s.lookup collection filter with
  | found object =>
    rw [found] at mapped
    exact ⟨object, (lookup_eq_found found).1, rfl, Lookup.found.inj mapped⟩
  | notFound => rw [found] at mapped; cases mapped
  | unresolvable => rw [found] at mapped; cases mapped
  | multiple n => rw [found] at mapped; cases mapped

theorem map_lookup_congr (same : t.contents = s.contents) (collection : String) (filter : Filter) :
    (t.lookup collection filter).map CanonicalObject.content =
      (s.lookup collection filter).map CanonicalObject.content := by
  rw [map_lookup, map_lookup, matching, matching, same]

theorem map_object?_congr (same : t.contents = s.contents) (id : ObjectId) :
    (t.object? id).map CanonicalObject.data = (s.object? id).map CanonicalObject.data := by
  have drawn (u : Store) : (u.object? id).map CanonicalObject.data =
      (u.contents.find? fun o => o.id = id).map ObjectContent.data := by
    rw [contents, List.find?_map, Option.map_map]
    rfl
  rw [drawn, drawn, same]

theorem contents_create :
    (s.create collection data false seed).2.contents =
      s.contents ++ [⟨⟨s.nextObject⟩, collection, data⟩] := by
  simp only [create, contents, Bool.false_eq_true, if_false, List.map_append, List.map_cons,
    List.map_nil, CanonicalObject.content_withSeed]
  rfl

theorem change_eq_ok {simulate : Bool} (run : s.change id data simulate seed = .ok t) :
    (simulate = true ∧ t = s) ∨ simulate = false ∧ s.Has id ∧
      t = { s with
        objects := s.objects.map fun o => if o.id = id then overwritten o data seed else o } := by
  unfold change at run
  cases simulate with
  | true => exact Or.inl ⟨rfl, (Except.ok.inj run).symm⟩
  | false =>
    rw [if_neg (by simp)] at run
    split at run
    · rename_i there
      obtain ⟨o, member, same⟩ := List.any_eq_true.1 there
      exact Or.inr ⟨rfl, ⟨o, member, of_decide_eq_true same⟩, (Except.ok.inj run).symm⟩
    · cases run

theorem real_change_eq_ok (run : s.change id data false seed = .ok t) :
    s.Has id ∧ t = { s with
      objects := s.objects.map fun o => if o.id = id then overwritten o data seed else o } :=
  (change_eq_ok run).elim (fun simulated => nomatch simulated.1) And.right

theorem contents_change (run : s.change id data false seed = .ok t) :
    t.contents = s.contents.map fun o => o.written id data := by
  obtain ⟨_, rfl⟩ := real_change_eq_ok run
  unfold contents
  rw [List.map_map, List.map_map]
  apply List.map_congr_left
  intro o _
  show (if o.id = id then overwritten o data seed else o).content = o.content.written id data
  by_cases same : o.id = id
  · rw [if_pos same, overwritten, CanonicalObject.content_withSeed]
    simp [same, ObjectContent.written, CanonicalObject.content]
  · simp [same, ObjectContent.written, CanonicalObject.content]

theorem contents_change_of_same (run : s.change id data false seed = .ok t)
    (same : ∀ o ∈ s.contents, o.id = id → o.data = data) : t.contents = s.contents := by
  rw [contents_change run]
  have kept : ∀ o ∈ s.contents, o.written id data = o := by
    intro o member
    unfold ObjectContent.written
    split
    · rename_i found
      rw [← same o member found]
    · rfl
  rw [List.map_congr_left kept, List.map_id']

theorem change_of_mem {o : CanonicalObject} (member : o ∈ s.objects) (data : Record)
    (seed : Option StatusSeed) : ∃ t, s.change o.id data false seed = .ok t := by
  unfold change
  rw [if_neg (by simp), if_pos (List.any_eq_true.2 ⟨o, member, by simp⟩)]
  exact ⟨_, rfl⟩

theorem relations_change {simulate : Bool} (run : s.change id data simulate seed = .ok t) :
    t.relations = s.relations := by
  rcases change_eq_ok run with ⟨_, rfl⟩ | ⟨_, _, rfl⟩ <;> rfl

theorem nextRelation_change {simulate : Bool} (run : s.change id data simulate seed = .ok t) :
    t.nextRelation = s.nextRelation := by
  rcases change_eq_ok run with ⟨_, rfl⟩ | ⟨_, _, rfl⟩ <;> rfl

theorem contents_delete :
    (s.delete id false).contents = s.contents.filter fun o => o.id ≠ id := by
  simp only [delete, contents, Bool.false_eq_true, if_false, List.filter_map]
  rfl

theorem UniqueObjects.eq_of_id_eq (unique : s.UniqueObjects) {a b : CanonicalObject}
    (aMember : a ∈ s.objects) (bMember : b ∈ s.objects) (same : a.id = b.id) : a = b :=
  List.inj_on_of_nodup_map unique.ids aMember bMember same

theorem UniqueObjects.content_eq (unique : s.UniqueObjects) {a b : ObjectContent}
    (aMember : a ∈ s.contents) (bMember : b ∈ s.contents) (same : a.id = b.id) : a = b := by
  obtain ⟨x, xMember, rfl⟩ := List.mem_map.1 aMember
  obtain ⟨y, yMember, rfl⟩ := List.mem_map.1 bMember
  exact congrArg _ (unique.eq_of_id_eq xMember yMember same)

theorem UniqueObjects.ids_contents (unique : s.UniqueObjects) :
    (s.contents.map ObjectContent.id).Nodup := by
  rw [contents, List.map_map]
  exact unique.ids

theorem UniqueObjects.create (unique : s.UniqueObjects) (collection : String) (data : Record)
    (simulate : Bool) (seed : Option StatusSeed) :
    (s.create collection data simulate seed).2.UniqueObjects := by
  cases simulate with
  | true => exact ⟨unique.ids, fun o member => Nat.lt_succ_of_lt (unique.below o member)⟩
  | false =>
    have id_eq (o : CanonicalObject) : (o.withSeed seed).id = o.id := by
      cases seed <;> rfl
    refine ⟨?_, fun o member => ?_⟩
    · simp only [Store.create, Bool.false_eq_true, if_false, List.map_append, List.map_cons,
        List.map_nil, id_eq]
      rw [List.nodup_append]
      refine ⟨unique.ids, List.nodup_singleton _, ?_⟩
      rintro id listed _ fresh rfl
      obtain ⟨o, member, rfl⟩ := List.mem_map.1 listed
      have below := unique.below o member
      rw [List.mem_singleton.1 fresh] at below
      exact Nat.lt_irrefl _ below
    · rcases List.mem_append.1 member with old | fresh
      · exact Nat.lt_succ_of_lt (unique.below o old)
      · rw [List.mem_singleton.1 fresh, id_eq]
        exact Nat.lt_succ_self _

theorem UniqueObjects.change (unique : s.UniqueObjects) {simulate : Bool}
    (run : s.change id data simulate seed = .ok t) : t.UniqueObjects := by
  rcases change_eq_ok run with ⟨_, rfl⟩ | ⟨_, _, rfl⟩
  · exact unique
  · have kept (o : CanonicalObject) :
        (if o.id = id then overwritten o data seed else o).id = o.id := by
      split
      · cases seed <;> rfl
      · rfl
    refine ⟨?_, fun o member => ?_⟩
    · rw [List.map_map]
      exact (List.map_congr_left fun o _ => kept o) ▸ unique.ids
    · obtain ⟨old, there, rfl⟩ := List.mem_map.1 member
      rw [kept]
      exact unique.below old there

theorem UniqueObjects.delete (unique : s.UniqueObjects) (id : ObjectId) (simulate : Bool) :
    (s.delete id simulate).UniqueObjects := by
  cases simulate with
  | true => exact unique
  | false =>
    exact ⟨unique.ids.sublist (List.filter_sublist.map _),
      fun o member => unique.below o (List.mem_filter.1 member).1⟩

theorem UniqueObjects.rewrites (unique : s.UniqueObjects) {x : CanonicalObject}
    (stored : x ∈ s.objects) {seed : StatusSeed}
    (run : s.change x.id data false (some seed) = .ok t) : s.Rewrites x data seed t := by
  refine ⟨overwritten x data (some seed), ⟨rfl, rfl, rfl, rfl, ?_, fun endpoint other => ?_⟩, ?_⟩
  · simp [overwritten, CanonicalObject.withSeed, CanonicalObject.statusFor, Keyed.get?_insertSorted]
  · simp [overwritten, CanonicalObject.withSeed, CanonicalObject.statusFor, Keyed.get?_insertSorted,
      other]
  · obtain ⟨_, rfl⟩ := real_change_eq_ok run
    congr 1
    apply List.map_congr_left
    intro o member
    by_cases same : o.id = x.id
    · rw [unique.eq_of_id_eq member stored same]
    · rw [if_neg same, if_neg same]

theorem Rewrites.stands {x : CanonicalObject} (stored : x ∈ s.objects) {seed : StatusSeed}
    (rewrites : s.Rewrites x data seed t) : ∃ o ∈ t.objects, o.id = x.id ∧ o.data = data := by
  obtain ⟨y, written, rfl⟩ := rewrites
  exact ⟨y, List.mem_map.2 ⟨x, stored, if_pos rfl⟩, written.id, written.data⟩

theorem Rewrites.contents_eq (unique : s.UniqueObjects) {x : CanonicalObject}
    (stored : x ∈ s.objects) {seed : StatusSeed} (rewrites : s.Rewrites x x.data seed t) :
    t.contents = s.contents := by
  obtain ⟨y, written, rfl⟩ := rewrites
  unfold contents
  rw [List.map_map]
  apply List.map_congr_left
  intro o member
  by_cases same : o.id = x.id
  · rw [unique.eq_of_id_eq member stored same]
    simp [CanonicalObject.content, written.id, written.collection, written.data]
  · simp [same]

theorem UniqueRelations.change (unique : s.UniqueRelations) {simulate : Bool}
    (run : s.change id data simulate seed = .ok t) : t.UniqueRelations := by
  refine ⟨?_, fun r member => ?_⟩
  · rw [relations_change run]
    exact unique.ids
  · rw [nextRelation_change run]
    exact unique.below r (relations_change run ▸ member)

theorem UniqueRelations.eq_of_id_eq (unique : s.UniqueRelations) {a b : Relation}
    (aMember : a ∈ s.relations) (bMember : b ∈ s.relations) (same : a.id = b.id) : a = b :=
  List.inj_on_of_nodup_map unique.ids aMember bMember same

end Store

end RecordSync
