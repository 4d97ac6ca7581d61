import RecordSync.Proofs.Contents
import RecordSync.Proofs.Mapping
import RecordSync.Proofs.Runs

set_option autoImplicit false

namespace RecordSync

def edgesOf (relations : List Relation) (source : ObjectId) (name : String) : List Relation :=
  (relations.filter fun r => r.source = source).filter fun r => r.attributeName = name

theorem mem_edgesOf {relations : List Relation} {source : ObjectId} {name : String} {r : Relation} :
    r ∈ edgesOf relations source name ↔
      r ∈ relations ∧ r.source = source ∧ r.attributeName = name := by
  simp only [edgesOf, List.mem_filter, decide_eq_true_eq, and_assoc]

theorem edgesOf_filter (relations : List Relation) (keep : Relation → Bool) (source : ObjectId)
    (name : String) :
    edgesOf (relations.filter keep) source name =
      (edgesOf relations source name).filter keep := by
  unfold edgesOf
  rw [List.filter_filter, List.filter_filter, List.filter_filter, List.filter_filter]
  apply List.filter_congr
  intro r _
  rw [Bool.and_comm, ← Bool.and_assoc]

theorem edgesOf_append (xs ys : List Relation) (source : ObjectId) (name : String) :
    edgesOf (xs ++ ys) source name = edgesOf xs source name ++ edgesOf ys source name := by
  simp [edgesOf]

def Relation.pointed (id : RelationId) (target : ObjectId) (r : Relation) : Relation :=
  if r.id = id then { r with target } else r

theorem edgesOf_map_pointed (relations : List Relation) (id : RelationId) (target source : ObjectId)
    (name : String) :
    edgesOf (relations.map (Relation.pointed id target)) source name =
      (edgesOf relations source name).map (Relation.pointed id target) := by
  unfold edgesOf
  rw [List.filter_map, List.filter_map]
  congr 2
  · funext r
    by_cases same : r.id = id <;> simp [Relation.pointed, same]
  · congr 1
    funext r
    by_cases same : r.id = id <;> simp [Relation.pointed, same]

namespace Store

def withoutEdges (s : Store) (ids : List RelationId) : Store :=
  { s with relations := s.relations.filter fun r => r.id ∉ ids }

def targetOf (s : Store) (link : RelationLink) (value : Value) : Lookup ObjectId :=
  (s.lookup link.collection (.equals link.attributeName value)).map CanonicalObject.id

theorem targetOf_congr {s t : Store} (same : t.contents = s.contents) (link : RelationLink)
    (value : Value) : t.targetOf link value = s.targetOf link value := by
  have mapped := congrArg (Lookup.map ObjectContent.id)
    (map_lookup_congr same link.collection (.equals link.attributeName value))
  unfold targetOf
  revert mapped
  cases t.lookup link.collection (.equals link.attributeName value) <;>
    cases s.lookup link.collection (.equals link.attributeName value) <;>
    simp [Lookup.map, CanonicalObject.content]

variable {s t : Store} {source : ObjectId} {name : String}

@[simp] theorem withoutEdges_nil (s : Store) : s.withoutEdges [] = s := by
  simp [withoutEdges]

theorem withoutEdges_cons (s : Store) (id : RelationId) (ids : List RelationId) :
    s.withoutEdges (id :: ids) = (s.deleteRelation id false).withoutEdges ids := by
  simp only [withoutEdges, deleteRelation, Bool.false_eq_true, if_false, List.filter_filter,
    List.mem_cons, not_or]
  congr 1
  apply List.filter_congr
  intro r _
  simp [Bool.and_comm]

theorem UniqueRelations.withoutEdges (unique : s.UniqueRelations) (ids : List RelationId) :
    (s.withoutEdges ids).UniqueRelations :=
  ⟨unique.ids.sublist (List.filter_sublist.map _),
    fun r member => unique.below r (List.mem_filter.1 member).1⟩

theorem UniqueRelations.id_ne (unique : s.UniqueRelations) {other : String} (differs : other ≠ name)
    {a b : Relation} (aMember : a ∈ edgesOf s.relations source other)
    (bMember : b ∈ edgesOf s.relations source name) : a.id ≠ b.id := by
  intro same
  obtain ⟨aStored, _, aNamed⟩ := mem_edgesOf.1 aMember
  obtain ⟨bStored, _, bNamed⟩ := mem_edgesOf.1 bMember
  have equal := unique.eq_of_id_eq aStored bStored same
  exact differs (aNamed.symm.trans ((congrArg _ equal).trans bNamed))

theorem edgesOf_withoutEdges_of_ne (unique : s.UniqueRelations) {other : String}
    (differs : other ≠ name) {edges : List Relation}
    (drawn : ∀ e ∈ edges, e ∈ edgesOf s.relations source name) :
    edgesOf (s.withoutEdges (edges.map Relation.id)).relations source other =
      edgesOf s.relations source other := by
  unfold withoutEdges
  rw [edgesOf_filter, List.filter_eq_self]
  intro r member
  rw [decide_eq_true_eq]
  intro listed
  obtain ⟨e, there, same⟩ := List.mem_map.1 listed
  exact unique.id_ne differs member (drawn e there) same.symm

theorem edgesOf_withoutEdges_self (s : Store) (source : ObjectId) (name : String) :
    edgesOf (s.withoutEdges ((edgesOf s.relations source name).map Relation.id)).relations source
      name = [] := by
  unfold withoutEdges
  rw [edgesOf_filter, List.filter_eq_nil_iff]
  intro r member
  simpa using ⟨r, member, rfl⟩

theorem edgesOf_withoutEdges_extra (unique : s.UniqueRelations) {edge : Relation}
    {extra : List Relation} (current : edgesOf s.relations source name = edge :: extra) :
    edgesOf (s.withoutEdges (extra.map Relation.id)).relations source name = [edge] := by
  have nodup : ((edge :: extra).map Relation.id).Nodup := by
    rw [← current]
    exact unique.ids.sublist ((List.filter_sublist.trans List.filter_sublist).map _)
  rw [List.map_cons, List.nodup_cons] at nodup
  unfold withoutEdges
  rw [edgesOf_filter, current, List.filter_cons_of_pos (by simpa using nodup.1)]
  congr 1
  rw [List.filter_eq_nil_iff]
  intro r member
  simpa using ⟨r, member, rfl⟩

theorem UniqueRelations.create (unique : s.UniqueRelations) (source target : ObjectId)
    (name : String) : (s.createRelation source target name false).2.UniqueRelations := by
  refine ⟨?_, ?_⟩
  · simp only [createRelation, Bool.false_eq_true, if_false, List.map_append, List.map_cons,
      List.map_nil]
    rw [List.nodup_append]
    refine ⟨unique.ids, List.nodup_singleton _, ?_⟩
    rintro id listed _ fresh rfl
    obtain ⟨r, member, rfl⟩ := List.mem_map.1 listed
    have below := unique.below r member
    rw [List.mem_singleton.1 fresh] at below
    exact Nat.lt_irrefl _ below
  · intro r member
    simp only [createRelation, Bool.false_eq_true, if_false, List.mem_append,
      List.mem_singleton] at member ⊢
    rcases member with old | rfl
    · exact Nat.lt_succ_of_lt (unique.below r old)
    · exact Nat.lt_succ_self _

theorem UniqueRelations.update (unique : s.UniqueRelations) (id : RelationId) (target : ObjectId) :
    (s.updateRelation id target false).UniqueRelations := by
  have kept (r : Relation) : (Relation.id ∘ Relation.pointed id target) r = r.id := by
    unfold Function.comp Relation.pointed
    split <;> rfl
  refine ⟨?_, ?_⟩
  · show ((s.relations.map (Relation.pointed id target)).map Relation.id).Nodup
    rw [List.map_map, List.map_congr_left fun r _ => kept r]
    exact unique.ids
  · intro r member
    obtain ⟨old, there, rfl⟩ := List.mem_map.1 member
    exact lt_of_eq_of_lt (congrArg RelationId.number (kept old)) (unique.below old there)

end Store

theorem EdgeChanges.isEmpty_add {a b : EdgeChanges} (first : a.isEmpty = true)
    (second : b.isEmpty = true) : (a.add b).isEmpty = true := by
  simp_all [EdgeChanges.isEmpty, EdgeChanges.add]

theorem Mapper.nodup_related (m : Mapper) : (m.related.map AttributeDefinition.name).Nodup :=
  m.distinct.sublist (List.filter_sublist.map _)

namespace Relations

def linkValue (data : Record) (d : AttributeDefinition) : Option Value :=
  (Keyed.get? d.name data).filter fun v => !v.isEmpty

def Clears (data : Record) (d : AttributeDefinition) : Prop :=
  d.ensure = .absent ∨ d.ensure = .latest ∧ linkValue data d = none

-- The edges of an attribute are as its value and its mode ask: none where it is to have none, and
-- where the one target is found a single edge, which points to it unless it only has to exist.
structure Settled (s : Store) (source : ObjectId) (data : Record) (d : AttributeDefinition)
    (link : RelationLink) : Prop where
  cleared : Clears data d → edgesOf s.relations source d.name = []
  pointed : d.ensure ≠ .absent → ∀ value, linkValue data d = some value →
    s.targetOf link value = .notFound ∨ ∃ target edge, s.targetOf link value = .found target ∧
      edgesOf s.relations source d.name = [edge] ∧ (edge.target = target ∨ d.ensure = .present)

variable {s t : Session} {d : AttributeDefinition} {link : RelationLink} {source : ObjectId}
  {data : Record}

theorem deleteAll_eq_ok {edges : List Relation} (run : deleteAll false edges s = (.ok (), t)) :
    t.store = s.store.withoutEdges (edges.map Relation.id) := by
  induction edges generalizing s with
  | nil =>
    cases run
    exact (Store.withoutEdges_nil _).symm
  | cons edge rest ih =>
    obtain ⟨_, u, first, later⟩ := Sync.bind_eq_ok run
    rw [ih later, Sync.deleteRelation_eq_ok first, List.map_cons, Store.withoutEdges_cons]

theorem target?_eq_ok {value : Value} {there : Option ObjectId}
    (run : target? d link value s = (.ok there, t)) :
    t.store = s.store ∧ s.store.targetOf link value =
      match there with
      | some target => .found target
      | none => .notFound := by
  obtain ⟨found, u, looked, run⟩ := Sync.bind_eq_ok run
  obtain ⟨rfl, rfl⟩ := Sync.lookupObject_eq_ok looked
  obtain ⟨object, v, only, run⟩ := Sync.bind_eq_ok run
  obtain ⟨rfl, answer⟩ := Sync.only_eq_ok only
  cases run
  refine ⟨rfl, ?_⟩
  unfold Store.targetOf
  cases object with
  | some o =>
    rw [answer]
    rfl
  | none =>
    rcases answer with none | unresolvable
    · rw [none]
      rfl
    · exact absurd unresolvable Store.lookup_ne_unresolvable

def reconcileAny (source : ObjectId) (data : Record) (simulate : Bool) (edges : List Relation)
    (d : AttributeDefinition) : Sync EdgeChanges :=
  match d.relation with
  | some link =>
    reconcileOne d link source data simulate (edges.filter fun e => e.attributeName = d.name)
  | none => pure .zero

theorem reconcileAll_cons (source : ObjectId) (data : Record) (simulate : Bool)
    (edges : List Relation) (d : AttributeDefinition) (ds : List AttributeDefinition) :
    reconcileAll source data simulate edges (d :: ds) = (do
      let first ← reconcileAny source data simulate edges d
      let rest ← reconcileAll source data simulate edges ds
      return first.add rest) := by
  rw [reconcileAll]
  unfold reconcileAny
  cases d.relation <;> rfl

-- A property of computations that holds of the calls on edges, and of what is put together from
-- computations that have it.
structure ClosedOnEdges (P : (α : Type) → Sync α → Prop) (simulate : Bool) : Prop where
  pure : ∀ {α : Type} (a : α), P α (pure a)
  bind : ∀ {α β : Type} {x : Sync α} {f : α → Sync β}, P α x → (∀ a, P β (f a)) → P β (x >>= f)
  lookup : ∀ collection filter, P _ (Sync.lookupObject collection filter false)
  only : ∀ name collection (found : Lookup CanonicalObject),
    P _ (Sync.only (.relation name collection) found)
  edges : ∀ source, P _ (Sync.relationsFrom source)
  create : ∀ source target name, P _ (Sync.createRelation source target name simulate)
  update : ∀ id target, P _ (Sync.updateRelation id target simulate)
  delete : ∀ id, P _ (Sync.deleteRelation id simulate)

namespace ClosedOnEdges

variable {P : (α : Type) → Sync α → Prop} {simulate : Bool} (closed : ClosedOnEdges P simulate)

include closed

theorem deleteAll (edges : List Relation) : P _ (deleteAll simulate edges) := by
  induction edges with
  | nil => exact closed.pure ()
  | cons edge rest ih => exact closed.bind (closed.delete edge.id) fun _ => ih

theorem pointTo (d : AttributeDefinition) (source target : ObjectId) (current : List Relation) :
    P _ (pointTo d source target simulate current) := by
  cases current with
  | nil => exact closed.bind (closed.create _ _ _) fun _ => closed.pure _
  | cons edge extra =>
    refine closed.bind (closed.deleteAll _) fun _ => ?_
    split
    · exact closed.bind (closed.update _ _) fun _ => closed.pure _
    · exact closed.pure _

theorem reconcileOne (d : AttributeDefinition) (link : RelationLink) (source : ObjectId)
    (data : Record) (current : List Relation) :
    P _ (reconcileOne d link source data simulate current) := by
  unfold Relations.reconcileOne
  dsimp only
  split
  · exact closed.bind (closed.deleteAll _) fun _ => closed.pure _
  · split
    · exact closed.pure _
    · refine closed.bind ?_ fun there => ?_
      · exact closed.bind (closed.lookup _ _) fun _ =>
          closed.bind (closed.only _ _ _) fun _ => closed.pure _
      · split
        · exact closed.pure _
        · exact closed.pointTo _ _ _ _

theorem reconcileAny (source : ObjectId) (data : Record) (edges : List Relation)
    (d : AttributeDefinition) : P _ (reconcileAny source data simulate edges d) := by
  unfold Relations.reconcileAny
  split
  · exact closed.reconcileOne _ _ _ _ _
  · exact closed.pure _

theorem reconcileAll (source : ObjectId) (data : Record) (edges : List Relation)
    (ds : List AttributeDefinition) : P _ (reconcileAll source data simulate edges ds) := by
  induction ds with
  | nil => exact closed.pure _
  | cons d ds ih =>
    rw [reconcileAll_cons]
    exact closed.bind (closed.reconcileAny _ _ _ _) fun _ =>
      closed.bind ih fun _ => closed.pure _

theorem reconcile (m : Mapper) (source : ObjectId) (data : Record) :
    P _ (reconcile m source data simulate) :=
  closed.bind (closed.edges source) fun _ => closed.reconcileAll _ _ _ _

theorem removeAll (source : ObjectId) : P _ (removeAll source simulate) :=
  closed.bind (closed.edges source) fun _ =>
    closed.bind (closed.deleteAll _) fun _ => closed.pure _

end ClosedOnEdges

theorem closed_onEdges (simulate : Bool) :
    ClosedOnEdges (fun _ act => Sync.OnEdges act) simulate where
  pure := Sync.onEdges_pure
  bind := Sync.onEdges_bind
  lookup collection filter := Sync.onEdges_lookupObject collection filter false
  only := Sync.onEdges_only
  edges := Sync.onEdges_relationsFrom
  create source target name := Sync.onEdges_createRelation source target name simulate
  update id target := Sync.onEdges_updateRelation id target simulate
  delete id := Sync.onEdges_deleteRelation id simulate

theorem onEdges_reconcile (m : Mapper) (source : ObjectId) (data : Record) (simulate : Bool) :
    Sync.OnEdges (reconcile m source data simulate) :=
  (closed_onEdges simulate).reconcile m source data

theorem onEdges_removeAll (source : ObjectId) (simulate : Bool) :
    Sync.OnEdges (removeAll source simulate) :=
  (closed_onEdges simulate).removeAll source

structure OtherEdges (source : ObjectId) (name : String) (s t : Store) : Prop where
  unique : t.UniqueRelations
  others : ∀ other, other ≠ name →
    edgesOf t.relations source other = edgesOf s.relations source other

theorem otherEdges_refl (unique : s.store.UniqueRelations) (source : ObjectId) (name : String) :
    OtherEdges source name s.store s.store :=
  ⟨unique, fun _ _ => rfl⟩

theorem otherEdges_withoutEdges {name : String} {store : Store} (unique : store.UniqueRelations)
    {edges : List Relation} (drawn : ∀ e ∈ edges, e ∈ edgesOf store.relations source name) :
    OtherEdges source name store (store.withoutEdges (edges.map Relation.id)) :=
  ⟨unique.withoutEdges _, fun _ differs => Store.edgesOf_withoutEdges_of_ne unique differs drawn⟩

theorem OtherEdges.trans {name : String} {a b c : Store} (first : OtherEdges source name a b)
    (second : OtherEdges source name b c) : OtherEdges source name a c :=
  ⟨second.unique, fun other differs =>
    (second.others other differs).trans (first.others other differs)⟩

section Writes

variable {store : Store} {name : String} (unique : store.UniqueRelations)

include unique

theorem edges_after_create (none : edgesOf store.relations source name = []) (target : ObjectId) :
    OtherEdges source name store (store.createRelation source target name false).2 ∧
      edgesOf (store.createRelation source target name false).2.relations source name =
        [⟨⟨store.nextRelation⟩, source, target, name⟩] := by
  refine ⟨⟨unique.create _ _ _, fun other differs => ?_⟩, ?_⟩
  · simp [Store.createRelation, edgesOf, Ne.symm differs]
  · simp only [Store.createRelation, Bool.false_eq_true, if_false]
    rw [edgesOf_append, none]
    simp [edgesOf]

theorem edges_after_trim {edge : Relation} {extra : List Relation}
    (current : edgesOf store.relations source name = edge :: extra) :
    OtherEdges source name store (store.withoutEdges (extra.map Relation.id)) ∧
      edgesOf (store.withoutEdges (extra.map Relation.id)).relations source name = [edge] := by
  refine ⟨otherEdges_withoutEdges unique fun e member => ?_,
    Store.edgesOf_withoutEdges_extra unique current⟩
  rw [current]
  exact List.mem_cons_of_mem edge member

theorem edges_after_update {edge : Relation} (only : edgesOf store.relations source name = [edge])
    (target : ObjectId) :
    OtherEdges source name store (store.updateRelation edge.id target false) ∧
      edgesOf (store.updateRelation edge.id target false).relations source name =
        [{ edge with target }] := by
  have stored : edge ∈ edgesOf store.relations source name := by
    rw [only]
    exact List.mem_singleton_self edge
  have mapped (other : String) :
      edgesOf (store.updateRelation edge.id target false).relations source other =
        (edgesOf store.relations source other).map (Relation.pointed edge.id target) :=
    edgesOf_map_pointed _ _ _ _ _
  refine ⟨⟨unique.update _ _, fun other differs => ?_⟩, ?_⟩
  · rw [mapped]
    conv_rhs => rw [← List.map_id (edgesOf store.relations source other)]
    apply List.map_congr_left
    intro r member
    exact if_neg (unique.id_ne differs member stored)
  · rw [mapped, only]
    simp [Relation.pointed]

end Writes

theorem pointTo_eq_ok {target : ObjectId} {edges : List Relation} {changes : EdgeChanges}
    (unique : s.store.UniqueRelations) (current : edgesOf s.store.relations source d.name = edges)
    (run : pointTo d source target false edges s = (.ok changes, t)) :
    OtherEdges source d.name s.store t.store ∧
      ∃ edge, edgesOf t.store.relations source d.name = [edge] ∧
        (edge.target = target ∨ d.ensure = .present) := by
  cases edges with
  | nil =>
    obtain ⟨id, u, created, run⟩ := Sync.bind_eq_ok run
    cases run
    rw [Sync.createRelation_eq_ok created]
    obtain ⟨frame, only⟩ := edges_after_create unique current target
    exact ⟨frame, _, only, Or.inl rfl⟩
  | cons edge extra =>
    obtain ⟨_, u, deleted, run⟩ := Sync.bind_eq_ok run
    obtain ⟨frame, left⟩ := edges_after_trim unique current
    rw [← deleteAll_eq_ok deleted] at frame left
    by_cases retarget : (edge.target ≠ target && d.ensure ≠ .present) = true
    · rw [if_pos retarget] at run
      obtain ⟨_, v, updated, run⟩ := Sync.bind_eq_ok run
      cases run
      rw [Sync.updateRelation_eq_ok updated]
      obtain ⟨moved, only⟩ := edges_after_update frame.unique left target
      exact ⟨frame.trans moved, _, only, Or.inl rfl⟩
    · rw [if_neg retarget] at run
      cases run
      refine ⟨frame, edge, left, ?_⟩
      by_cases same : edge.target = target
      · exact Or.inl same
      · exact Or.inr (by simpa [same] using retarget)

theorem reconcileOne_of_clears (clears : Clears data d) (simulate : Bool)
    (current : List Relation) :
    reconcileOne d link source data simulate current = (do
      deleteAll simulate current
      return ⟨0, 0, current.length, 0⟩) := by
  unfold reconcileOne
  refine if_pos ?_
  rcases clears with absent | ⟨latest, unlinked⟩
  · simp [absent]
  · have none : (Keyed.get? d.name data).filter (fun v => !v.isEmpty) = none := unlinked
    simp [latest, none]

theorem reconcileOne_of_none (kept : ¬ Clears data d) (unlinked : linkValue data d = none)
    (simulate : Bool) (current : List Relation) :
    reconcileOne d link source data simulate current = pure .zero := by
  have none : (Keyed.get? d.name data).filter (fun v => !v.isEmpty) = none := unlinked
  have present : d.ensure ≠ .absent := fun absent => kept (Or.inl absent)
  have stays : d.ensure ≠ .latest := fun latest => kept (Or.inr ⟨latest, unlinked⟩)
  unfold reconcileOne
  dsimp only
  rw [none, if_neg (by simp [present, stays])]

theorem reconcileOne_of_some {value : Value} (present : d.ensure ≠ .absent)
    (linked : linkValue data d = some value) (simulate : Bool) (current : List Relation) :
    reconcileOne d link source data simulate current = (do
      match ← target? d link value with
      | none => return ⟨0, 0, 0, 1⟩
      | some target => pointTo d source target simulate current) := by
  have some : (Keyed.get? d.name data).filter (fun v => !v.isEmpty) = some value := linked
  unfold reconcileOne
  dsimp only
  rw [some]
  exact if_neg (by simp [present])

theorem reconcileOne_eq_ok {changes : EdgeChanges} (unique : s.store.UniqueRelations)
    (run : reconcileOne d link source data false (edgesOf s.store.relations source d.name) s =
      (.ok changes, t)) :
    OtherEdges source d.name s.store t.store ∧ Settled t.store source data d link := by
  -- Edges are cleared, left alone for want of a value, or pointed to what the value links to.
  by_cases clears : Clears data d
  · rw [reconcileOne_of_clears clears] at run
    obtain ⟨_, u, deleted, run⟩ := Sync.bind_eq_ok run
    cases run
    rw [deleteAll_eq_ok deleted]
    refine ⟨otherEdges_withoutEdges unique fun _ member => member, ?_, ?_⟩
    · exact fun _ => Store.edgesOf_withoutEdges_self _ _ _
    · intro present value linked
      rcases clears with absent | ⟨_, unlinked⟩
      · exact absurd absent present
      · cases unlinked.symm.trans linked
  · have cleared : Clears data d → edgesOf t.store.relations source d.name = [] :=
      fun asked => absurd asked clears
    cases linked : linkValue data d with
    | none =>
      rw [reconcileOne_of_none clears linked] at run
      cases run
      refine ⟨otherEdges_refl unique _ _, cleared, fun _ value same => ?_⟩
      cases linked.symm.trans same
    | some value =>
      have objects := (((closed_onEdges _).reconcileOne _ _ _ _ _).sameObjects run).contents
      rw [reconcileOne_of_some (fun absent => clears (Or.inl absent)) linked] at run
      obtain ⟨there, u, found, run⟩ := Sync.bind_eq_ok run
      obtain ⟨stored, answer⟩ := target?_eq_ok found
      cases there with
      | none =>
        cases run
        refine ⟨?_, cleared, fun _ other same => Or.inl ?_⟩
        · rw [stored]
          exact otherEdges_refl unique _ _
        · cases linked.symm.trans same
          exact (Store.targetOf_congr objects link value).trans answer
      | some target =>
        rw [← stored] at unique run ⊢
        obtain ⟨frame, edge, left, points⟩ := pointTo_eq_ok unique rfl run
        refine ⟨frame, cleared, fun _ other same => Or.inr ⟨target, edge, ?_, left, points⟩⟩
        cases linked.symm.trans same
        exact (Store.targetOf_congr objects link value).trans answer

def AllSettled (s : Store) (source : ObjectId) (data : Record) (ds : List AttributeDefinition) :
    Prop :=
  ∀ d ∈ ds, ∀ link, d.relation = some link → Settled s source data d link

theorem Settled.congr {s t : Store} (contents : t.contents = s.contents)
    (edges : edgesOf t.relations source d.name = edgesOf s.relations source d.name)
    (settled : Settled s source data d link) : Settled t source data d link := by
  refine ⟨fun clears => edges.trans (settled.cleared clears), fun present value linked => ?_⟩
  rw [Store.targetOf_congr contents, edges]
  exact settled.pointed present value linked

theorem AllSettled.congr {s t : Store} {ds : List AttributeDefinition}
    (contents : t.contents = s.contents) (relations : t.relations = s.relations)
    (settled : AllSettled s source data ds) : AllSettled t source data ds :=
  fun d member link related =>
    (settled d member link related).congr contents (by rw [relations])

theorem reconcileAny_eq_ok {edges : List Relation} {changes : EdgeChanges}
    (unique : s.store.UniqueRelations)
    (snapshot : (edges.filter fun e => e.attributeName = d.name) =
      edgesOf s.store.relations source d.name)
    (run : reconcileAny source data false edges d s = (.ok changes, t)) :
    OtherEdges source d.name s.store t.store ∧
      ∀ link, d.relation = some link → Settled t.store source data d link := by
  unfold reconcileAny at run
  cases related : d.relation with
  | none =>
    rw [related] at run
    cases run
    exact ⟨otherEdges_refl unique _ _, fun _ other => nomatch other⟩
  | some link =>
    rw [related] at run
    dsimp only at run
    rw [snapshot] at run
    obtain ⟨frame, settled⟩ := reconcileOne_eq_ok unique run
    refine ⟨frame, fun _ same => ?_⟩
    cases same
    exact settled

theorem reconcileAll_eq_ok {ds : List AttributeDefinition} {edges : List Relation}
    {changes : EdgeChanges} (unique : s.store.UniqueRelations)
    (names : (ds.map AttributeDefinition.name).Nodup)
    (snapshot : ∀ d ∈ ds, (edges.filter fun e => e.attributeName = d.name) =
      edgesOf s.store.relations source d.name)
    (run : reconcileAll source data false edges ds s = (.ok changes, t)) :
    t.store.UniqueRelations ∧
      (∀ other, other ∉ ds.map AttributeDefinition.name →
        edgesOf t.store.relations source other = edgesOf s.store.relations source other) ∧
      AllSettled t.store source data ds := by
  -- Over the definitions to come. `edges` was read before the first of them, and stays what the
  -- store holds for those to come, since each writes under its own name.
  induction ds generalizing s changes with
  | nil =>
    cases run
    exact ⟨unique, fun _ _ => rfl, fun _ member => nomatch member⟩
  | cons d ds ih =>
    rw [reconcileAll_cons] at run
    obtain ⟨first, u, head, run⟩ := Sync.bind_eq_ok run
    obtain ⟨rest, v, tail, run⟩ := Sync.bind_eq_ok run
    cases run
    rw [List.map_cons, List.nodup_cons] at names
    obtain ⟨frame, settled⟩ := reconcileAny_eq_ok unique (snapshot d List.mem_cons_self) head
    have later : ∀ e ∈ ds, (edges.filter fun r => r.attributeName = e.name) =
        edgesOf u.store.relations source e.name := by
      intro e member
      rw [snapshot e (List.mem_cons_of_mem d member), frame.others]
      exact fun same => names.1 (same ▸ List.mem_map_of_mem member)
    obtain ⟨uniqueAfter, others, allSettled⟩ := ih frame.unique names.2 later tail
    refine ⟨uniqueAfter, fun other outside => ?_, ?_⟩
    · rw [List.map_cons, List.mem_cons, not_or] at outside
      rw [others other outside.2, frame.others other outside.1]
    · intro e member link related
      rcases List.mem_cons.1 member with rfl | member
      -- Later attributes write no object and no edge under this name.
      · exact (settled link related).congr
          (((closed_onEdges _).reconcileAll _ _ _ _).sameObjects tail).contents (others _ names.1)
      · exact allSettled e member link related

theorem reconcile_eq_ok {m : Mapper} {changes : EdgeChanges} (unique : s.store.UniqueRelations)
    (run : reconcile m source data false s = (.ok changes, t)) :
    t.store.contents = s.store.contents ∧ t.store.UniqueRelations ∧
      AllSettled t.store source data m.related := by
  refine ⟨((onEdges_reconcile _ _ _ _).sameObjects run).contents, ?_⟩
  obtain ⟨edges, u, read, run⟩ := Sync.bind_eq_ok run
  obtain ⟨rfl, rfl⟩ := Sync.relationsFrom_eq_ok read
  have logged : (s.logged (.store (.relationsFrom source))).store.UniqueRelations := unique
  obtain ⟨uniqueAfter, _, settled⟩ := reconcileAll_eq_ok logged m.nodup_related (fun _ _ => rfl) run
  exact ⟨uniqueAfter, settled⟩

section Idle

def Idle (act : Sync EdgeChanges) (s : Session) : Prop :=
  ∃ changes t, act s = (.ok changes, t) ∧ changes.isEmpty = true ∧ s.Unmoved t

theorem target?_of_calm (calm : s.Calm) {value : Value} (there : Option ObjectId)
    (answer : s.store.targetOf link value =
      match there with
      | some target => .found target
      | none => .notFound) :
    ∃ t, target? d link value s = (.ok there, t) ∧ s.Unmoved t := by
  refine ⟨s.logged (.store (.lookup link.collection (.equals link.attributeName value) false)), ?_,
    s.unmoved_logged _ rfl⟩
  unfold target?
  rw [Sync.bind_of_ok (Sync.lookupObject_of_calm calm _ _ _)]
  unfold Store.targetOf at answer
  cases found : s.store.lookup link.collection (.equals link.attributeName value) with
  | found object =>
    rw [found] at answer
    cases there <;> cases answer
    rfl
  | notFound =>
    rw [found] at answer
    cases there <;> cases answer
    rfl
  | unresolvable =>
    rw [found] at answer
    cases there <;> cases answer
  | multiple count =>
    rw [found] at answer
    cases there <;> cases answer

theorem pointTo_of_pointed {target : ObjectId} {edge : Relation}
    (pointed : edge.target = target ∨ d.ensure = .present) :
    pointTo d source target false [edge] s = (.ok .zero, s) := by
  have keeps : (edge.target ≠ target && d.ensure ≠ .present) = false := by
    rcases pointed with same | present
    · simp [same]
    · simp [present]
  show (if (edge.target ≠ target && d.ensure ≠ .present) = true then _ else _ :
    Sync EdgeChanges) s = _
  rw [keeps]
  rfl

theorem idle_reconcileOne (calm : s.Calm) (settled : Settled s.store source data d link) :
    Idle (reconcileOne d link source data false (edgesOf s.store.relations source d.name)) s := by
  by_cases clears : Clears data d
  · rw [reconcileOne_of_clears clears, settled.cleared clears]
    exact ⟨_, s, rfl, rfl, .refl s⟩
  · cases linked : linkValue data d with
    | none =>
      rw [reconcileOne_of_none clears linked]
      exact ⟨_, s, rfl, rfl, .refl s⟩
    | some value =>
      have present : d.ensure ≠ .absent := fun absent => clears (Or.inl absent)
      unfold Idle
      rw [reconcileOne_of_some present linked]
      rcases settled.pointed present value linked with missing | ⟨target, edge, found, left, points⟩
      · obtain ⟨t, run, unmoved⟩ := target?_of_calm (d := d) calm none missing
        rw [Sync.bind_of_ok run]
        exact ⟨_, t, rfl, rfl, unmoved⟩
      · obtain ⟨t, run, unmoved⟩ := target?_of_calm (d := d) calm (some target) found
        rw [Sync.bind_of_ok run, left]
        exact ⟨_, t, pointTo_of_pointed points, rfl, unmoved⟩

theorem idle_reconcileAll {ds : List AttributeDefinition} (calm : s.Calm)
    (settled : AllSettled s.store source data ds) :
    Idle (reconcileAll source data false (s.store.relationsFrom source) ds) s := by
  suffices general : ∀ edges, edges = s.store.relationsFrom source →
      Idle (reconcileAll source data false edges ds) s from general _ rfl
  intro edges snapshot
  induction ds generalizing s with
  | nil => exact ⟨_, s, rfl, rfl, .refl s⟩
  | cons d ds ih =>
    obtain ⟨now, later⟩ := List.forall_mem_cons.1 settled
    have head : Idle (reconcileAny source data false edges d) s := by
      unfold reconcileAny
      cases related : d.relation with
      | none => exact ⟨_, s, rfl, rfl, .refl s⟩
      | some link =>
        rw [snapshot]
        exact idle_reconcileOne calm (now link related)
    obtain ⟨first, t, headRun, firstEmpty, unmoved⟩ := head
    have kept : t.store = s.store := unmoved.store
    obtain ⟨rest, u, tailRun, restEmpty, moved⟩ :=
      ih (unmoved.toOnlyStore.calm calm) (by rw [kept]; exact later) (by rw [kept]; exact snapshot)
    refine ⟨first.add rest, u, ?_, EdgeChanges.isEmpty_add firstEmpty restEmpty,
      unmoved.trans moved⟩
    rw [reconcileAll_cons, Sync.bind_of_ok headRun, Sync.bind_of_ok tailRun]
    rfl

theorem idle_reconcile {m : Mapper} (calm : s.Calm)
    (settled : AllSettled s.store source data m.related) :
    Idle (reconcile m source data false) s := by
  have read := s.unmoved_logged (.store (.relationsFrom source)) rfl
  obtain ⟨changes, t, run, empty, unmoved⟩ :=
    idle_reconcileAll (show (s.logged _).Calm from calm) settled
  refine ⟨changes, t, ?_, empty, read.trans unmoved⟩
  unfold reconcile
  rw [Sync.bind_of_ok (Sync.relationsFrom_of_calm calm source)]
  exact run

end Idle

end Relations

end RecordSync
