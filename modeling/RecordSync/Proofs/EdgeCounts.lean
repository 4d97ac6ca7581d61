import Mathlib.Algebra.BigOperators.Group.List.Basic
import Mathlib.Algebra.GroupWithZero.Nat
import RecordSync.Proofs.EdgePlans
import RecordSync.Proofs.ImportTable

set_option autoImplicit false

namespace RecordSync

namespace Store

variable {s t u : Store}

-- An edge keeps its source and its name while it is there, and a new one has a new number.
structure Descends (s t : Store) : Prop where
  next : s.nextRelation ≤ t.nextRelation
  edges : ∀ r ∈ t.relations, (∃ q ∈ s.relations, q.id = r.id ∧ q.source = r.source ∧
    q.attributeName = r.attributeName) ∨ s.nextRelation ≤ r.id.number

theorem descends_of_relations (relations : t.relations = s.relations)
    (next : t.nextRelation = s.nextRelation) : Descends s t :=
  ⟨Nat.le_of_eq next.symm, fun r member => Or.inl ⟨r, relations ▸ member, rfl, rfl, rfl⟩⟩

theorem Descends.trans (first : Descends s t) (second : Descends t u) : Descends s u := by
  refine ⟨Nat.le_trans first.next second.next, fun r member => ?_⟩
  rcases second.edges r member with ⟨q, there, same, source, name⟩ | new
  · rcases first.edges q there with ⟨p, old, before, leaves, named⟩ | new
    · exact Or.inl ⟨p, old, before.trans same, leaves.trans source, named.trans name⟩
    · exact Or.inr (same ▸ new)
  · exact Or.inr (Nat.le_trans first.next new)

theorem descends_apply (s : Store) (x : StoreWrite) : Descends s (s.apply false x) := by
  cases x with
  | createObject collection data seed => exact descends_of_relations rfl rfl
  | changeObject id data seed =>
    unfold apply change
    simp only [Bool.false_eq_true, if_false]
    split
    · rename_i changed
      split at changed <;> cases changed
      exact descends_of_relations rfl rfl
    · exact descends_of_relations rfl rfl
  | deleteObject id => exact descends_of_relations rfl rfl
  | createRelation source target name =>
    refine ⟨Nat.le_succ _, fun r member => ?_⟩
    rcases List.mem_append.1 member with old | new
    · exact Or.inl ⟨r, old, rfl, rfl, rfl⟩
    · rw [List.mem_singleton.1 new]
      exact Or.inr (Nat.le_refl _)
  | updateRelation id target =>
    refine ⟨Nat.le_refl _, fun r member => Or.inl ?_⟩
    obtain ⟨q, there, rfl⟩ := List.mem_map.1 member
    refine ⟨q, there, ?_⟩
    split <;> exact ⟨rfl, rfl, rfl⟩
  | deleteRelation id =>
    exact ⟨Nat.le_refl _, fun r member =>
      Or.inl ⟨r, (List.mem_filter.1 member).1, rfl, rfl, rfl⟩⟩

theorem descends_written (s : Store) (writes : List StoreWrite) :
    Descends s (s.written false writes) := by
  induction writes generalizing s with
  | nil => exact descends_of_relations rfl rfl
  | cons x rest ih => exact (descends_apply s x).trans (ih _)

theorem filter_new_self (relations : List Relation) :
    relations.filter (fun r => r.id ∉ relations.map Relation.id) = [] :=
  List.filter_eq_nil_iff.2 fun r member => by simpa using ⟨r, member, rfl⟩

theorem filter_moved_self {relations : List Relation}
    (distinct : (relations.map Relation.id).Nodup) :
    relations.filter (fun r => relations.any fun q => q.id = r.id && q.target ≠ r.target) = [] := by
  rw [List.filter_eq_nil_iff]
  intro r member counted
  obtain ⟨q, there, moved⟩ := List.any_eq_true.1 counted
  simp only [Bool.and_eq_true, decide_eq_true_eq] at moved
  exact moved.2 (congrArg _ (List.inj_on_of_nodup_map distinct there member moved.1))

def edgeIds (s : Store) : List RelationId := s.relations.map Relation.id

def created (s t : Store) : List Relation :=
  t.relations.filter fun r => r.id ∉ s.edgeIds

def deleted (s t : Store) : List Relation :=
  s.relations.filter fun r => r.id ∉ t.edgeIds

def retargeted (s t : Store) : List Relation :=
  s.relations.filter fun r => t.relations.any fun q => q.id = r.id && q.target ≠ r.target

theorem UniqueRelations.nodup_edgesOf (unique : s.UniqueRelations) (source : ObjectId)
    (name : String) : ((edgesOf s.relations source name).map Relation.id).Nodup :=
  unique.ids.sublist ((List.filter_sublist.trans List.filter_sublist).map _)

theorem UniqueRelations.not_mem_edgeIds (unique : s.UniqueRelations) {id : RelationId}
    (new : s.nextRelation ≤ id.number) : id ∉ s.edgeIds := by
  intro listed
  obtain ⟨r, member, rfl⟩ := List.mem_map.1 listed
  have below := unique.below r member
  omega

section Under

variable {source : ObjectId} {names : List String} {name : String} (unique : s.UniqueRelations)

include unique

theorem Descends.mem_edgesOf (descends : Descends s t) {q r : Relation}
    (before : q ∈ edgesOf s.relations source name) (after : r ∈ t.relations) (same : r.id = q.id) :
    r ∈ edgesOf t.relations source name := by
  obtain ⟨stored, leaves, named⟩ := RecordSync.mem_edgesOf.1 before
  rcases descends.edges r after with ⟨p, old, samePart, sourced, called⟩ | new
  · obtain rfl := unique.eq_of_id_eq old stored (samePart.trans same)
    exact RecordSync.mem_edgesOf.2 ⟨after, sourced.symm.trans leaves, called.symm.trans named⟩
  · have below := unique.below q stored
    rw [same] at new
    omega

theorem Descends.mem_edgeIds_iff (descends : Descends s t) {q : Relation}
    (before : q ∈ edgesOf s.relations source name) :
    q.id ∈ t.edgeIds ↔ q.id ∈ (edgesOf t.relations source name).map Relation.id := by
  constructor
  · intro listed
    obtain ⟨r, after, same⟩ := List.mem_map.1 listed
    exact List.mem_map.2 ⟨r, descends.mem_edgesOf unique before after same, same⟩
  · intro listed
    obtain ⟨r, after, same⟩ := List.mem_map.1 listed
    exact List.mem_map.2 ⟨r, (RecordSync.mem_edgesOf.1 after).1, same⟩

theorem Descends.any_eq (descends : Descends s t) {q : Relation}
    (before : q ∈ edgesOf s.relations source name) :
    (t.relations.any fun r => r.id = q.id && r.target ≠ q.target) =
      (edgesOf t.relations source name).any fun r => r.id = q.id && r.target ≠ q.target := by
  rw [Bool.eq_iff_iff, List.any_eq_true, List.any_eq_true]
  constructor
  · rintro ⟨r, after, moved⟩
    have same : r.id = q.id := by
      rw [Bool.and_eq_true, decide_eq_true_eq] at moved
      exact moved.1
    exact ⟨r, descends.mem_edgesOf unique before after same, moved⟩
  · rintro ⟨r, after, moved⟩
    exact ⟨r, (RecordSync.mem_edgesOf.1 after).1, moved⟩

omit unique in
theorem EdgesUnder.mem_iff (under : EdgesUnder source names s t) {r : Relation}
    (outside : ¬(r.source = source ∧ r.attributeName ∈ names)) :
    r ∈ t.relations ↔ r ∈ s.relations := by
  have both : r ∈ t.relations.filter (fun r => ¬(r.source = source ∧ r.attributeName ∈ names)) ↔
      r ∈ s.relations.filter fun r => ¬(r.source = source ∧ r.attributeName ∈ names) := by
    rw [under.others]
  rw [List.mem_filter, List.mem_filter, decide_eq_true_eq] at both
  simpa only [outside, not_false_eq_true, and_true] using both

end Under

theorem length_filter_eq_sum {relations : List Relation} {p : Relation → Bool} {source : ObjectId}
    {names : List String} (distinct : names.Nodup)
    (under : ∀ r ∈ relations, p r = true → r.source = source ∧ r.attributeName ∈ names) :
    (relations.filter p).length =
      (names.map fun name => ((edgesOf relations source name).filter p).length).sum := by
  induction names generalizing p with
  | nil =>
    rw [List.filter_eq_nil_iff.2 fun r member counted =>
      List.not_mem_nil (under r member counted).2]
    rfl
  | cons name names ih =>
    -- What counts under the first name, and what counts under the others.
    obtain ⟨fresh, others⟩ := List.nodup_cons.1 distinct
    have mine : (relations.filter p).filter (fun r => decide (r.attributeName = name)) =
        (edgesOf relations source name).filter p := by
      unfold edgesOf
      rw [List.filter_filter, List.filter_filter, List.filter_filter]
      apply List.filter_congr
      intro r member
      by_cases counted : p r = true
      · simp [counted, (under r member counted).1]
      · simp [counted]
    have rest := ih (p := fun r => p r && !decide (r.attributeName = name)) others (by
      intro r member counted
      rw [Bool.and_eq_true, Bool.not_eq_true', decide_eq_false_iff_not] at counted
      obtain ⟨leaves, listed⟩ := under r member counted.1
      exact ⟨leaves, (List.mem_cons.1 listed).resolve_left counted.2⟩)
    have same : ∀ other ∈ names,
        ((edgesOf relations source other).filter fun r =>
          p r && !decide (r.attributeName = name)).length =
            ((edgesOf relations source other).filter p).length := by
      intro other member
      congr 1
      apply List.filter_congr
      intro r there
      have differs : r.attributeName ≠ name := fun named =>
        fresh (named ▸ (mem_edgesOf.1 there).2.2 ▸ member)
      simp [differs]
    have others : ((relations.filter p).filter fun r => !decide (r.attributeName = name)).length =
        (names.map fun name => ((edgesOf relations source name).filter p).length).sum := by
      rw [List.filter_filter, List.filter_congr fun r _ => Bool.and_comm _ _, rest,
        List.map_congr_left same]
    rw [List.map_cons, List.sum_cons, ← mine, ← others]
    exact List.length_eq_length_filter_add _

end Store

namespace Relations

namespace Aim

def leaves (d : AttributeDefinition) (source : ObjectId) (fresh : RelationId)
    (current : List Relation) : Aim → List Relation
  | .leave | .miss => current
  | .clear => []
  | .point target =>
    match current with
    | [] => [⟨fresh, source, target, d.name⟩]
    | edge :: _ =>
      [if edge.target ≠ target && d.ensure ≠ .present then { edge with target } else edge]

variable {s : Store} {source : ObjectId} {d : AttributeDefinition}

theorem edgesOf_written (unique : s.UniqueRelations) (a : Aim) :
    edgesOf (s.written false (a.writes d source (edgesOf s.relations source d.name))).relations source
        d.name =
      a.leaves d source ⟨s.nextRelation⟩ (edgesOf s.relations source d.name) := by
  cases a with
  | leave | miss => rfl
  | clear =>
    rw [writes, written_clearing]
    exact Store.edgesOf_withoutEdges_self s source d.name
  | point target =>
    cases current : edgesOf s.relations source d.name with
    | nil => exact (edges_after_create unique current target).2
    | cons edge extra =>
      obtain ⟨frame, only⟩ := edges_after_trim unique current
      rw [writes, Store.written_append, written_clearing, leaves]
      split
      · exact (edges_after_update frame.unique only target).2
      · exact only

section Counts

variable {fresh : RelationId} {current : List Relation} (a : Aim)

theorem created_leaves {ids : List RelationId} (old : ∀ r ∈ current, r.id ∈ ids)
    (new : fresh ∉ ids) :
    ((a.leaves d source fresh current).filter fun r => r.id ∉ ids).length =
      (a.changes d current).created := by
  have kept : current.filter (fun r => r.id ∉ ids) = [] :=
    List.filter_eq_nil_iff.2 fun r member => by simpa using old r member
  cases a with
  | leave | miss =>
    rw [leaves, kept]
    rfl
  | clear => rfl
  | point target =>
    cases current with
    | nil => simp [leaves, changes, new]
    | cons edge extra =>
      have there : edge.id ∈ ids := old edge List.mem_cons_self
      unfold leaves changes
      dsimp only
      split <;> simp [there]

theorem deleted_leaves (distinct : (current.map Relation.id).Nodup) :
    (current.filter fun r => r.id ∉ (a.leaves d source fresh current).map Relation.id).length =
      (a.changes d current).deleted := by
  cases a with
  | leave | miss =>
    rw [leaves, Store.filter_new_self]
    rfl
  | clear => simp [leaves, changes]
  | point target =>
    cases current with
    | nil => rfl
    | cons edge extra =>
      rw [List.map_cons, List.nodup_cons] at distinct
      have first : (leaves d source fresh (edge :: extra) (.point target)).map Relation.id =
          [edge.id] := by
        unfold leaves
        dsimp only
        split <;> rfl
      have others : extra.filter (fun r => r.id ∉ [edge.id]) = extra := by
        rw [List.filter_eq_self]
        intro r member
        simpa using fun same : r.id = edge.id => distinct.1 (same ▸ List.mem_map_of_mem member)
      rw [first, List.filter_cons_of_neg (by simp), others]
      unfold changes
      dsimp only
      split <;> rfl

theorem retargeted_leaves (distinct : (current.map Relation.id).Nodup) :
    (current.filter fun r => (a.leaves d source fresh current).any fun q =>
      q.id = r.id && q.target ≠ r.target).length = (a.changes d current).updated := by
  cases a with
  | leave | miss =>
    rw [leaves, Store.filter_moved_self distinct]
    rfl
  | clear => simp [leaves, changes]
  | point target =>
    cases current with
    | nil => rfl
    | cons edge extra =>
      rw [List.map_cons, List.nodup_cons] at distinct
      have others (first : Relation) (same : first.id = edge.id) :
          extra.filter (fun r => [first].any fun q => q.id = r.id && q.target ≠ r.target) = [] := by
        rw [List.filter_eq_nil_iff]
        intro r member counted
        simp only [List.any_cons, List.any_nil, Bool.or_false, Bool.and_eq_true,
          decide_eq_true_eq] at counted
        exact distinct.1 (same ▸ counted.1 ▸ List.mem_map_of_mem member)
      unfold leaves changes
      dsimp only
      split
      · rename_i moves
        rw [List.filter_cons_of_pos, others { edge with target } rfl]
        · rfl
        · simp only [Bool.and_eq_true, decide_eq_true_eq] at moves
          simp [Ne.symm moves.1]
      · rw [List.filter_cons_of_neg, others edge rfl]
        · rfl
        · simp

end Counts

end Aim

variable {s : Store} {targets : Targets} {source : ObjectId} {data : Record}
  {relations : List Relation} {d : AttributeDefinition} {ds : List AttributeDefinition} {a : Aim}

theorem edgesUnder_aim (source : ObjectId) (unique : s.UniqueRelations)
    (aimed : aim targets data d = .ok a) :
    s.EdgesUnder source [d.name]
      (s.written false (a.writes d source (edgesOf s.relations source d.name))) := by
  have alone : ([d].map AttributeDefinition.name).Nodup := List.nodup_singleton d.name
  have whole : (planAll targets source data s.relations [d]).writes =
      a.writes d source (edgesOf s.relations source d.name) ++ [] := by
    rw [planAll_cons_of_ok aimed]
    rfl
  exact (planAll_written unique alone whole).1

theorem edgesOf_planAll (unique : s.UniqueRelations) (names : (ds.map AttributeDefinition.name).Nodup)
    {changes : EdgeChanges} (ok : (planAll targets source data s.relations ds).result = .ok changes) :
    ∀ d ∈ ds, ∃ a fresh, aim targets data d = .ok a ∧ s.nextRelation ≤ fresh.number ∧
      edgesOf (s.written false (planAll targets source data s.relations ds).writes).relations source
          d.name =
        a.leaves d source fresh (edgesOf s.relations source d.name) := by
  induction ds generalizing s changes with
  | nil => exact fun _ member => nomatch member
  | cons d ds ih =>
    rw [List.map_cons, List.nodup_cons] at names
    cases aimed : aim targets data d with
    | error e =>
      rw [planAll_cons_of_error aimed] at ok
      cases ok
    | ok a =>
      -- The first attribute's writes leave the edges of the others alone, so that the rest of the plan
      -- is the plan of what they leave.
      have under := edgesUnder_aim source unique aimed
      have apart {e : AttributeDefinition} (member : e ∈ ds) : e.name ∉ [d.name] := fun same =>
        names.1 (List.mem_singleton.1 same ▸ List.mem_map_of_mem member)
      have same : ∀ e ∈ ds, _ := fun e member => under.edgesOf_eq (apart member)
      have later : planAll targets source data _ ds = _ := planAll_congr same
      rw [planAll_cons_of_ok aimed] at ok ⊢
      rw [← later] at ok ⊢
      obtain ⟨rest, restOk, _⟩ := Except.map_eq_ok ok
      obtain ⟨untouched, _⟩ := planAll_written under.unique names.2 (List.append_nil _).symm
      intro e member
      rw [Store.written_append]
      rcases List.mem_cons.1 member with rfl | member
      · exact ⟨a, ⟨s.nextRelation⟩, aimed, Nat.le_refl _,
          (untouched.edgesOf_eq names.1).trans (a.edgesOf_written unique)⟩
      · obtain ⟨b, fresh, aims, new, edges⟩ := ih under.unique names.2 restOk e member
        refine ⟨b, fresh, aims, Nat.le_trans (s.descends_written _).next new, ?_⟩
        rw [edges, under.edgesOf_eq (apart member)]

section Totals

variable {t : Store} {names : List String}

theorem length_created (under : s.EdgesUnder source names t) (distinct : names.Nodup) :
    (s.created t).length = (names.map fun name =>
      ((edgesOf t.relations source name).filter fun r => r.id ∉ s.edgeIds).length).sum := by
  refine Store.length_filter_eq_sum distinct fun r member new => ?_
  by_contra outside
  rw [decide_eq_true_eq] at new
  exact new (List.mem_map_of_mem ((under.mem_iff outside).1 member))

theorem length_deleted (under : s.EdgesUnder source names t) (distinct : names.Nodup) :
    (s.deleted t).length = (names.map fun name =>
      ((edgesOf s.relations source name).filter fun r => r.id ∉ t.edgeIds).length).sum := by
  refine Store.length_filter_eq_sum distinct fun r member gone => ?_
  by_contra outside
  rw [decide_eq_true_eq] at gone
  exact gone (List.mem_map_of_mem ((under.mem_iff outside).2 member))

theorem length_retargeted (under : s.EdgesUnder source names t) (distinct : names.Nodup) :
    (s.retargeted t).length = (names.map fun name =>
      ((edgesOf s.relations source name).filter fun r =>
        t.relations.any fun q => q.id = r.id && q.target ≠ r.target).length).sum := by
  refine Store.length_filter_eq_sum distinct fun r member moved => ?_
  by_contra outside
  obtain ⟨q, there, moved⟩ := List.any_eq_true.1 moved
  simp only [Bool.and_eq_true, decide_eq_true_eq] at moved
  have stays := (under.mem_iff outside).2 member
  exact moved.2 (congrArg _ (under.unique.eq_of_id_eq there stays moved.1))

theorem total_planAll {count : EdgeChanges → Nat} (zero : count .zero = 0)
    (additive : ∀ a b, count (a.add b) = count a + count b) {each : AttributeDefinition → Nat}
    (counts : ∀ d ∈ ds, ∀ a, aim targets data d = .ok a →
      count (a.changes d (edgesOf relations source d.name)) = each d) {changes : EdgeChanges}
    (ok : (planAll targets source data relations ds).result = .ok changes) :
    count changes = (ds.map each).sum := by
  induction ds generalizing changes with
  | nil =>
    cases ok
    exact zero
  | cons d ds ih =>
    obtain ⟨first, later⟩ := List.forall_mem_cons.1 counts
    cases aimed : aim targets data d with
    | error e =>
      rw [planAll_cons_of_error aimed] at ok
      cases ok
    | ok a =>
      rw [planAll_cons_of_ok aimed] at ok
      obtain ⟨rest, restOk, rfl⟩ := Except.map_eq_ok ok
      rw [additive, first a aimed, ih later restOk, List.map_cons, List.sum_cons]

theorem total_leaves {count : EdgeChanges → Nat} (zero : count .zero = 0)
    (additive : ∀ a b, count (a.add b) = count a + count b) {each : AttributeDefinition → Nat}
    (unique : s.UniqueRelations) (names : (ds.map AttributeDefinition.name).Nodup)
    (counts : ∀ d ∈ ds, ∀ (a : Aim) (fresh : RelationId), s.nextRelation ≤ fresh.number →
      edgesOf (s.written false (planAll targets source data s.relations ds).writes).relations source
          d.name =
        a.leaves d source fresh (edgesOf s.relations source d.name) →
      count (a.changes d (edgesOf s.relations source d.name)) = each d) {changes : EdgeChanges}
    (ok : (planAll targets source data s.relations ds).result = .ok changes) :
    count changes = (ds.map each).sum := by
  refine total_planAll zero additive (fun d member a aimed => ?_) ok
  obtain ⟨b, fresh, same, new, edges⟩ := edgesOf_planAll unique names ok d member
  cases aimed.symm.trans same
  exact counts d member a fresh new edges

-- What a plan counts are the edges that it creates, retargets and deletes.
theorem counts_planAll (unique : s.UniqueRelations) (names : (ds.map AttributeDefinition.name).Nodup)
    {changes : EdgeChanges} (ok : (planAll targets source data s.relations ds).result = .ok changes) :
    let t := s.written false (planAll targets source data s.relations ds).writes
    changes.created = (s.created t).length ∧ changes.updated = (s.retargeted t).length ∧
      changes.deleted = (s.deleted t).length := by
  intro t
  have under : s.EdgesUnder source (ds.map AttributeDefinition.name) t :=
    (planAll_written unique names (List.append_nil _).symm).1
  have descends : s.Descends t := s.descends_written _
  -- Both sides are sums over the attributes, and agree for each one's edges.
  refine ⟨?_, ?_, ?_⟩
  · rw [length_created under names, List.map_map]
    refine total_leaves rfl (fun _ _ => rfl) unique names (fun d _ a fresh new edges => ?_) ok
    have old : ∀ r ∈ edgesOf s.relations source d.name, r.id ∈ s.edgeIds := fun r there =>
      List.mem_map_of_mem (mem_edgesOf.1 there).1
    rw [← a.created_leaves old (unique.not_mem_edgeIds new), ← edges]
    rfl
  · rw [length_retargeted under names, List.map_map]
    refine total_leaves rfl (fun _ _ => rfl) unique names (fun d _ a fresh _ edges => ?_) ok
    rw [← a.retargeted_leaves (unique.nodup_edgesOf source d.name), ← edges]
    exact congrArg List.length
      (List.filter_congr fun r there => (descends.any_eq unique there).symm)
  · rw [length_deleted under names, List.map_map]
    refine total_leaves rfl (fun _ _ => rfl) unique names (fun d _ a fresh _ edges => ?_) ok
    rw [← a.deleted_leaves (unique.nodup_edgesOf source d.name), ← edges]
    exact congrArg List.length (List.filter_congr fun r there =>
      decide_eq_decide.2 (not_congr (descends.mem_edgeIds_iff unique there)).symm)

end Totals

end Relations

end RecordSync
