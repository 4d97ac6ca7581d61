import RecordSync.Proofs.Plans

set_option autoImplicit false

namespace RecordSync

namespace Store

-- Nothing differs but edges that leave the object under one of the names.
structure EdgesUnder (source : ObjectId) (names : List String) (s t : Store) : Prop where
  objects : t.objects = s.objects
  nextObject : t.nextObject = s.nextObject
  unique : t.UniqueRelations
  others : t.relations.filter (fun r => ¬(r.source = source ∧ r.attributeName ∈ names)) =
    s.relations.filter fun r => ¬(r.source = source ∧ r.attributeName ∈ names)

variable {s t u : Store} {source : ObjectId} {name : String} {names : List String}

theorem EdgesUnder.refl (unique : s.UniqueRelations) : EdgesUnder source names s s :=
  ⟨rfl, rfl, unique, rfl⟩

theorem EdgesUnder.trans (first : EdgesUnder source names s t)
    (second : EdgesUnder source names t u) : EdgesUnder source names s u :=
  ⟨second.objects.trans first.objects, second.nextObject.trans first.nextObject, second.unique,
    second.others.trans first.others⟩

theorem EdgesUnder.contents (under : EdgesUnder source names s t) : t.contents = s.contents :=
  congrArg (List.map CanonicalObject.content) under.objects

theorem EdgesUnder.filter_eq (under : EdgesUnder source names s t) {keep : Relation → Bool}
    (outside : ∀ r, keep r = true → ¬(r.source = source ∧ r.attributeName ∈ names)) :
    t.relations.filter keep = s.relations.filter keep := by
  have narrowed (relations : List Relation) : relations.filter keep =
      (relations.filter fun r => ¬(r.source = source ∧ r.attributeName ∈ names)).filter keep := by
    rw [List.filter_filter]
    apply List.filter_congr
    intro r _
    by_cases kept : keep r = true
    · simp only [kept, outside r kept, not_false_eq_true, decide_true, Bool.and_self]
    · simp [kept]
  rw [narrowed, under.others, ← narrowed]

theorem EdgesUnder.edgesOf_eq (under : EdgesUnder source names s t) {other : String}
    (outside : other ∉ names) :
    edgesOf t.relations source other = edgesOf s.relations source other := by
  unfold edgesOf
  rw [List.filter_filter, List.filter_filter]
  apply under.filter_eq
  intro r kept
  simp only [Bool.and_eq_true, decide_eq_true_eq] at kept
  rw [kept.1]
  exact fun inside => outside inside.2

theorem EdgesUnder.mono (under : EdgesUnder source names s t) {wider : List String}
    (subset : names ⊆ wider) : EdgesUnder source wider s t := by
  refine ⟨under.objects, under.nextObject, under.unique, under.filter_eq fun r kept inside => ?_⟩
  rw [decide_eq_true_eq] at kept
  exact kept ⟨inside.1, subset inside.2⟩

section Writes

variable (unique : s.UniqueRelations)

include unique

theorem edgesUnder_create (target : ObjectId) :
    EdgesUnder source [name] s (s.apply false (.createRelation source target name)) := by
  refine ⟨rfl, rfl, unique.create _ _ _, ?_⟩
  show (s.relations ++ [_]).filter _ = _
  rw [List.filter_append, List.filter_cons_of_neg (by simp), List.filter_nil, List.append_nil]

theorem edgesUnder_update {edge : Relation} (stored : edge ∈ edgesOf s.relations source name)
    (target : ObjectId) :
    EdgesUnder source [name] s (s.apply false (.updateRelation edge.id target)) := by
  obtain ⟨there, leaves, named⟩ := mem_edgesOf.1 stored
  refine ⟨rfl, rfl, unique.update _ _, ?_⟩
  show (s.relations.map (Relation.pointed edge.id target)).filter _ = _
  have alike : ((fun r : Relation => decide ¬(r.source = source ∧ r.attributeName ∈ [name])) ∘
      Relation.pointed edge.id target) =
      fun r => decide ¬(r.source = source ∧ r.attributeName ∈ [name]) := by
    funext r
    by_cases same : r.id = edge.id <;> simp [Relation.pointed, same]
  rw [List.filter_map, alike]
  -- Of the edges that are kept none has the identifier, since that one is under the name.
  conv_rhs => rw [← List.map_id (s.relations.filter _)]
  apply List.map_congr_left
  intro r member
  obtain ⟨stored, outside⟩ := List.mem_filter.1 member
  refine if_neg fun same => ?_
  rw [unique.eq_of_id_eq stored there same] at outside
  simp [leaves, named] at outside

theorem edgesUnder_delete {edge : Relation} (stored : edge ∈ edgesOf s.relations source name) :
    EdgesUnder source [name] s (s.apply false (.deleteRelation edge.id)) := by
  obtain ⟨there, leaves, named⟩ := mem_edgesOf.1 stored
  refine ⟨rfl, rfl, ?_, ?_⟩
  · exact ⟨unique.ids.sublist (List.filter_sublist.map _),
      fun r member => unique.below r (List.mem_filter.1 member).1⟩
  · show (s.relations.filter fun r => r.id ≠ edge.id).filter _ = _
    rw [List.filter_filter]
    apply List.filter_congr
    intro r member
    by_cases same : r.id = edge.id
    · rw [unique.eq_of_id_eq member there same]
      simp [leaves, named]
    · simp [same]

omit unique in
theorem filter_id_ne (before : List Relation) {after : List Relation} {edge : Relation}
    (ids : ((before ++ edge :: after).map Relation.id).Nodup) :
    (before ++ edge :: after).filter (fun r => r.id ≠ edge.id) = before ++ after := by
  rw [List.map_append, List.map_cons, List.nodup_middle, List.nodup_cons, List.mem_append] at ids
  have others {part : List Relation} (apart : edge.id ∉ part.map Relation.id) :
      part.filter (fun r => r.id ≠ edge.id) = part := by
    apply List.filter_eq_self.2
    intro r member
    exact decide_eq_true fun same => apart (List.mem_map.2 ⟨r, member, same⟩)
  rw [List.filter_append, List.filter_cons_of_neg (by simp),
    others fun inside => ids.1 (Or.inl inside), others fun inside => ids.1 (Or.inr inside)]

theorem edgesOf_apply_delete (before : List Relation) {after : List Relation} {edge : Relation}
    (current : edgesOf s.relations source name = before ++ edge :: after) :
    edgesOf (s.apply false (.deleteRelation edge.id)).relations source name = before ++ after := by
  have ids : ((edgesOf s.relations source name).map Relation.id).Nodup :=
    unique.ids.sublist ((List.filter_sublist.trans List.filter_sublist).map _)
  rw [current] at ids
  show edgesOf (s.relations.filter _) source name = _
  rw [edgesOf_filter, current, filter_id_ne before ids]

theorem relationsFrom_apply_delete {after : List Relation} {edge : Relation}
    (current : s.relationsFrom source = edge :: after) :
    (s.apply false (.deleteRelation edge.id)).relationsFrom source = after := by
  have ids : ((s.relationsFrom source).map Relation.id).Nodup :=
    unique.ids.sublist (List.filter_sublist.map _)
  rw [current] at ids
  show (s.relations.filter _).filter _ = _
  rw [List.filter_filter, List.filter_congr fun _ _ => Bool.and_comm _ _, ← List.filter_filter]
  show (s.relationsFrom source).filter _ = _
  rw [current]
  exact filter_id_ne [] ids

end Writes

end Store

namespace Relations

def clearing (edges : List Relation) : List StoreWrite :=
  edges.map fun edge => .deleteRelation edge.id

inductive Aim where
  | leave
  | clear
  | miss
  | point (target : ObjectId)

namespace Aim

def writes (d : AttributeDefinition) (source : ObjectId) (current : List Relation) :
    Aim → List StoreWrite
  | .leave | .miss => []
  | .clear => clearing current
  | .point target =>
    match current with
    | [] => [.createRelation source target d.name]
    | edge :: extra => clearing extra ++
        if edge.target ≠ target && d.ensure ≠ .present then [.updateRelation edge.id target] else []

def changes (d : AttributeDefinition) (current : List Relation) : Aim → EdgeChanges
  | .leave => .zero
  | .miss => ⟨0, 0, 0, 1⟩
  | .clear => ⟨0, 0, current.length, 0⟩
  | .point target =>
    match current with
    | [] => ⟨1, 0, 0, 0⟩
    | edge :: extra =>
      if edge.target ≠ target && d.ensure ≠ .present then ⟨0, 1, extra.length, 0⟩
      else ⟨0, 0, extra.length, 0⟩

def plan (d : AttributeDefinition) (source : ObjectId) (current : List Relation) (a : Aim) :
    Plan EdgeChanges :=
  ⟨a.writes d source current, .ok (a.changes d current)⟩

end Aim

abbrev Targets := RelationLink → Value → Lookup ObjectId

def aim (targets : Targets) (data : Record) (d : AttributeDefinition) : Except WorkflowError Aim :=
  match d.relation with
  | none => .ok .leave
  | some link =>
    if d.ensure = .absent || (d.ensure = .latest && (linkValue data d).isNone) then .ok .clear
    else
      match linkValue data d with
      | none => .ok .leave
      | some value =>
        match targets link value with
        | .found target => .ok (.point target)
        | .notFound | .unresolvable => .ok .miss
        | .multiple count => .error (.ambiguous (.relation d.name link.collection) count)

def planAny (targets : Targets) (source : ObjectId) (data : Record) (relations : List Relation)
    (d : AttributeDefinition) : Plan EdgeChanges :=
  match aim targets data d with
  | .ok a => a.plan d source (edgesOf relations source d.name)
  | .error e => .fails e

def planAll (targets : Targets) (source : ObjectId) (data : Record) (relations : List Relation) :
    List AttributeDefinition → Plan EdgeChanges
  | [] => .done .zero
  | d :: ds => (planAny targets source data relations d).andThen fun first =>
      (planAll targets source data relations ds).andThen fun rest => .done (first.add rest)

def plan (m : Mapper) (source : ObjectId) (data : Record) (s : Store) : Plan EdgeChanges :=
  planAll s.targetOf source data s.relations m.related

section Aims

variable {targets : Targets} {source : ObjectId} {data : Record} {relations : List Relation}
  {d : AttributeDefinition} {link : RelationLink}

theorem aim_of_unrelated (unrelated : d.relation = none) : aim targets data d = .ok .leave := by
  unfold aim
  rw [unrelated]

theorem aim_of_clears (related : d.relation = some link) (clears : Clears data d) :
    aim targets data d = .ok .clear := by
  unfold aim
  rw [related]
  refine if_pos ?_
  rcases clears with absent | ⟨latest, unlinked⟩
  · simp [absent]
  · simp [latest, unlinked]

theorem aim_of_none (related : d.relation = some link) (kept : ¬ Clears data d)
    (unlinked : linkValue data d = none) : aim targets data d = .ok .leave := by
  have present : d.ensure ≠ .absent := fun absent => kept (Or.inl absent)
  have stays : d.ensure ≠ .latest := fun latest => kept (Or.inr ⟨latest, unlinked⟩)
  unfold aim
  rw [related]
  dsimp only
  rw [unlinked, if_neg (by simp [present, stays])]

theorem planAny_of_ok {a : Aim} (aimed : aim targets data d = .ok a) :
    planAny targets source data relations d =
      a.plan d source (edgesOf relations source d.name) := by
  unfold planAny
  rw [aimed]

theorem planAny_of_some {value : Value} (related : d.relation = some link)
    (present : d.ensure ≠ .absent) (linked : linkValue data d = some value) :
    planAny targets source data relations d =
      (Plan.only (.relation d.name link.collection) (targets link value)).andThen fun there =>
        (there.elim Aim.miss Aim.point).plan d source (edgesOf relations source d.name) := by
  unfold planAny aim
  rw [related]
  dsimp only
  rw [linked, if_neg (by simp [present])]
  dsimp only
  cases targets link value <;> rfl

end Aims

section Performs

variable {s : Session} {simulate : Bool} {d : AttributeDefinition} {source : ObjectId}
  {data : Record}

theorem performs_deleteAll (edges : List Relation) :
    Sync.Performs (deleteAll simulate edges) s simulate ⟨clearing edges, .ok ()⟩ := by
  induction edges generalizing s with
  | nil => exact .pure ()
  | cons edge rest ih =>
    exact Sync.Performs.bind (.deleteRelation edge.id) fun _ _ _ _ _ => ih

theorem performs_target? (d : AttributeDefinition) (link : RelationLink) (value : Value) :
    Sync.Performs (target? d link value) s simulate
      (.only (.relation d.name link.collection) (s.store.targetOf link value)) := by
  have performs : Sync.Performs (target? d link value) s simulate
      ((Plan.done (s.store.lookup link.collection (.equals link.attributeName value))).andThen
        fun found => (Plan.only (.relation d.name link.collection) found).andThen fun there =>
          .done (there.map CanonicalObject.id)) :=
    Sync.Performs.bind (.lookupObject _ _ false) fun found u _ _ _ =>
      Sync.Performs.bind (.only _ found) fun there v _ _ _ => .pure _
  unfold Store.targetOf
  rw [Plan.done_andThen] at performs
  cases found : s.store.lookup link.collection (.equals link.attributeName value) <;>
    · rw [found] at performs
      exact performs

theorem performs_pointTo (d : AttributeDefinition) (source target : ObjectId)
    (current : List Relation) :
    Sync.Performs (pointTo d source target simulate current) s simulate
      ((Aim.point target).plan d source current) := by
  cases current with
  | nil => exact Sync.Performs.bind (.createRelation source target d.name) fun _ _ _ _ _ => .pure _
  | cons edge extra =>
    unfold pointTo Aim.plan Aim.writes Aim.changes
    dsimp only
    split
    · exact Sync.Performs.bind (performs_deleteAll extra) fun _ _ _ _ _ =>
        Sync.Performs.bind (.updateRelation edge.id target) fun _ _ _ _ _ => .pure _
    · rw [List.append_nil]
      exact (performs_deleteAll extra).returning fun _ => EdgeChanges.mk 0 0 extra.length 0

theorem performs_reconcileOne {link : RelationLink} (related : d.relation = some link)
    (relations : List Relation) :
    Sync.Performs
      (reconcileOne d link source data simulate (edgesOf relations source d.name)) s simulate
      (planAny s.store.targetOf source data relations d) := by
  by_cases clears : Clears data d
  · rw [reconcileOne_of_clears clears, planAny_of_ok (aim_of_clears related clears)]
    exact (performs_deleteAll _).returning fun _ => EdgeChanges.mk 0 0 _ 0
  · cases linked : linkValue data d with
    | none =>
      rw [reconcileOne_of_none clears linked, planAny_of_ok (aim_of_none related clears linked)]
      exact .pure _
    | some value =>
      have present : d.ensure ≠ .absent := fun absent => clears (Or.inl absent)
      rw [reconcileOne_of_some present linked, planAny_of_some related present linked]
      refine Sync.Performs.bind (performs_target? d link value) fun there _ _ _ _ => ?_
      cases there with
      | none => exact .pure _
      | some target => exact performs_pointTo d source target _

theorem performs_reconcileAny (relations : List Relation) :
    Sync.Performs
      (reconcileAny source data simulate (relations.filter fun r => r.source = source) d) s simulate
      (planAny s.store.targetOf source data relations d) := by
  unfold reconcileAny
  cases related : d.relation with
  | none =>
    rw [planAny_of_ok (aim_of_unrelated related)]
    exact .pure _
  | some link => exact performs_reconcileOne related _

theorem performs_reconcileAll {targets : Targets} (relations : List Relation)
    (ds : List AttributeDefinition) (same : s.store.targetOf = targets) :
    Sync.Performs
      (reconcileAll source data simulate (relations.filter fun r => r.source = source) ds) s
      simulate (planAll targets source data relations ds) := by
  subst same
  induction ds generalizing s with
  | nil => exact .pure _
  | cons d ds ih =>
    rw [reconcileAll_cons]
    refine Sync.Performs.bind (performs_reconcileAny relations) fun first u run _ _ => ?_
    -- Edges were written, so the attributes to come find the targets that they found before.
    have kept : u.store.targetOf = s.store.targetOf := by
      funext link value
      exact Store.targetOf_congr
        (((closed_onEdges _).reconcileAny _ _ _ _).sameObjects run).contents link value
    rw [← kept]
    exact Sync.Performs.bind ih fun _ _ _ _ _ => .pure _

theorem performs_reconcile (m : Mapper) (source : ObjectId) (data : Record) :
    Sync.Performs (reconcile m source data simulate) s simulate (plan m source data s.store) := by
  show Sync.Performs _ s simulate ((Plan.done (s.store.relationsFrom source)).andThen
    fun _ => plan m source data s.store)
  refine Sync.Performs.bind (.relationsFrom source) fun edges u run _ _ => ?_
  obtain ⟨rfl, rfl⟩ := Sync.relationsFrom_eq_ok run
  exact performs_reconcileAll s.store.relations m.related rfl

theorem performs_removeAll (source : ObjectId) :
    Sync.Performs (removeAll source simulate) s simulate
      ⟨clearing (s.store.relationsFrom source), .ok (s.store.relationsFrom source).length⟩ := by
  show Sync.Performs _ s simulate ((Plan.done (s.store.relationsFrom source)).andThen
    fun edges => ⟨clearing edges, .ok edges.length⟩)
  exact Sync.Performs.bind (.relationsFrom source) fun edges _ _ _ _ =>
    (performs_deleteAll edges).returning fun _ => edges.length

end Performs

section Resumed

variable {s : Store} {targets : Targets} {source : ObjectId} {data : Record}
  {relations : List Relation} {d : AttributeDefinition} {ds : List AttributeDefinition} {a : Aim}
  {x : StoreWrite} {rest : List StoreWrite} {e : WorkflowError}

theorem Aim.writes_apply (unique : s.UniqueRelations)
    (first : a.writes d source (edgesOf s.relations source d.name) = x :: rest) :
    Store.EdgesUnder source [d.name] s (s.apply false x) ∧
      a.writes d source (edgesOf (s.apply false x).relations source d.name) = rest := by
  cases current : edgesOf s.relations source d.name with
  | nil =>
    rw [current] at first
    cases a with
    | leave | miss | clear => cases first
    | point target =>
      cases first
      refine ⟨Store.edgesUnder_create unique target, ?_⟩
      have made := (edges_after_create unique current target).2
      show writes d source
        (edgesOf (s.createRelation source target d.name false).2.relations _ _) _ = []
      rw [made]
      simp [writes, clearing]
  | cons edge extra =>
    have stored {r : Relation} (member : r ∈ edge :: extra) :
        r ∈ edgesOf s.relations source d.name := current ▸ member
    rw [current] at first
    cases a with
    | leave | miss => cases first
    | clear =>
      cases first
      refine ⟨Store.edgesUnder_delete unique (stored List.mem_cons_self), ?_⟩
      rw [Store.edgesOf_apply_delete unique [] current]
      rfl
    | point target =>
      cases extra with
      | nil =>
        -- All that is left to do is the retargeting, after which the edge points where it should.
        simp only [writes, clearing, List.map_nil, List.nil_append] at first
        split at first
        · cases first
          refine ⟨Store.edgesUnder_update unique (stored List.mem_cons_self) target, ?_⟩
          have moved := (edges_after_update unique current target).2
          show writes d source
            (edgesOf (s.updateRelation edge.id target false).relations _ _) _ = []
          rw [moved]
          simp [writes, clearing]
        · cases first
      | cons second more =>
        cases first
        refine ⟨Store.edgesUnder_delete unique (stored (by simp)), ?_⟩
        rw [Store.edgesOf_apply_delete unique [edge] current]
        rfl

theorem planAll_cons_of_ok (aimed : aim targets data d = .ok a) :
    planAll targets source data relations (d :: ds) =
      ⟨a.writes d source (edgesOf relations source d.name) ++
        (planAll targets source data relations ds).writes,
        (planAll targets source data relations ds).result.map
          (a.changes d (edgesOf relations source d.name)).add⟩ := by
  rw [planAll, planAny_of_ok aimed]
  cases later : (planAll targets source data relations ds).result with
  | ok rest => simp [Aim.plan, Plan.andThen, Plan.done, later, Except.map]
  | error e => simp [Aim.plan, Plan.andThen, later, Except.map]

theorem planAll_cons_of_error (aimed : aim targets data d = .error e) :
    planAll targets source data relations (d :: ds) = .fails e := by
  rw [planAll, planAny, aimed]
  rfl

theorem planAll_congr {others : List Relation}
    (same : ∀ d ∈ ds, edgesOf others source d.name = edgesOf relations source d.name) :
    planAll targets source data others ds = planAll targets source data relations ds := by
  induction ds with
  | nil => rfl
  | cons d ds ih =>
    obtain ⟨first, later⟩ := List.forall_mem_cons.1 same
    unfold planAll planAny
    rw [first, ih later]

theorem planAll_result_isOk (relations : List Relation) :
    (∃ changes, (planAll targets source data relations ds).result = .ok changes) ↔
      ∀ d ∈ ds, ∃ a, aim targets data d = .ok a := by
  induction ds with
  | nil => simp [planAll, Plan.done]
  | cons d ds ih =>
    rw [List.forall_mem_cons, ← ih]
    cases aimed : aim targets data d with
    | error e => simp [planAll_cons_of_error aimed, Plan.fails]
    | ok a =>
      rw [planAll_cons_of_ok aimed]
      cases (planAll targets source data relations ds).result <;> simp [Except.map]

-- After its first write the plan is what was left of it.
theorem planAll_apply (unique : s.UniqueRelations) (names : (ds.map AttributeDefinition.name).Nodup)
    (first : (planAll targets source data s.relations ds).writes = x :: rest) :
    Store.EdgesUnder source (ds.map AttributeDefinition.name) s (s.apply false x) ∧
      (planAll targets source data (s.apply false x).relations ds).writes = rest := by
  induction ds with
  | nil => cases first
  | cons d ds ih =>
    rw [List.map_cons, List.nodup_cons] at names
    cases aimed : aim targets data d with
    | error e =>
      rw [planAll_cons_of_error aimed] at first
      cases first
    | ok a =>
      rw [planAll_cons_of_ok aimed] at first ⊢
      cases mine : a.writes d source (edgesOf s.relations source d.name) with
      | nil =>
        -- The write is for a later attribute, and leaves this one with nothing to do.
        rw [mine] at first
        obtain ⟨under, left⟩ := ih names.2 first
        rw [under.edgesOf_eq names.1, mine]
        exact ⟨under.mono (List.subset_cons_self _ _), left⟩
      | cons y ys =>
        rw [mine] at first
        cases first
        obtain ⟨under, left⟩ := a.writes_apply unique mine
        have others : ∀ e ∈ ds, edgesOf (s.apply false x).relations source e.name =
            edgesOf s.relations source e.name := by
          intro e member
          refine under.edgesOf_eq fun same => names.1 ?_
          exact List.mem_singleton.1 same ▸ List.mem_map_of_mem member
        rw [planAll_congr others, left]
        exact ⟨under.mono (by simp), rfl⟩

theorem planAll_written (unique : s.UniqueRelations)
    (names : (ds.map AttributeDefinition.name).Nodup) {part : List StoreWrite}
    (whole : (planAll targets source data s.relations ds).writes = part ++ rest) :
    Store.EdgesUnder source (ds.map AttributeDefinition.name) s (s.written false part) ∧
      (planAll targets source data (s.written false part).relations ds).writes = rest := by
  induction part generalizing s with
  | nil => exact ⟨.refl unique, whole⟩
  | cons x part ih =>
    -- The rest is the whole plan of the store after the first write, which makes it the next one's.
    obtain ⟨under, left⟩ := planAll_apply unique names whole
    obtain ⟨later, final⟩ := ih under.unique left
    exact ⟨under.trans later, final⟩

theorem edgesUnder_written {m : Mapper} {part : List StoreWrite} (unique : s.UniqueRelations)
    (whole : (plan m source data s).writes = part ++ rest) :
    s.EdgesUnder source (m.related.map AttributeDefinition.name) (s.written false part) :=
  (planAll_written unique m.nodup_related whole).1

theorem ambiguous_of_aim (failed : aim targets data d = .error e) :
    ∃ link count, e = .ambiguous (.relation d.name link) count := by
  unfold aim at failed
  split at failed
  · cases failed
  · split at failed
    · cases failed
    · split at failed
      · cases failed
      · split at failed <;> cases failed
        exact ⟨_, _, rfl⟩

theorem planAll_eq_error (failed : (planAll targets source data relations ds).result = .error e) :
    ∃ before d after, ds = before ++ d :: after ∧
      (∃ link count, e = .ambiguous (.relation d.name link) count) ∧
      (planAll targets source data relations ds).writes =
        (planAll targets source data relations before).writes := by
  induction ds with
  | nil => cases failed
  | cons d ds ih =>
    cases aimed : aim targets data d with
    | error e' =>
      rw [planAll_cons_of_error aimed] at failed ⊢
      cases failed
      refine ⟨[], d, ds, rfl, ?_, rfl⟩
      exact ambiguous_of_aim aimed
    | ok a =>
      rw [planAll_cons_of_ok aimed] at failed ⊢
      cases result : (planAll targets source data relations ds).result with
      | ok changes =>
        rw [result] at failed
        cases failed
      | error e' =>
        rw [result] at failed
        cases failed
        obtain ⟨before, stop, after, rfl, ambiguous, same⟩ := ih result
        refine ⟨d :: before, stop, after, rfl, ambiguous, ?_⟩
        rw [planAll_cons_of_ok aimed, same]

theorem clearing_written (unique : s.UniqueRelations) {part : List StoreWrite}
    (whole : clearing (s.relationsFrom source) = part ++ rest) :
    (s.written false part).objects = s.objects ∧ (s.written false part).UniqueRelations ∧
      clearing ((s.written false part).relationsFrom source) = rest := by
  induction part generalizing s with
  | nil => exact ⟨rfl, unique, whole⟩
  | cons x part ih =>
    cases current : s.relationsFrom source with
    | nil =>
      rw [current] at whole
      cases whole
    | cons edge more =>
      rw [current] at whole
      obtain ⟨rfl, left⟩ := List.cons.inj whole
      rw [← Store.relationsFrom_apply_delete unique current] at left
      have stored : edge ∈ edgesOf s.relations source edge.attributeName := by
        have listed : edge ∈ s.relationsFrom source := current ▸ List.mem_cons_self
        obtain ⟨there, leaves⟩ := List.mem_filter.1 listed
        exact mem_edgesOf.2 ⟨there, of_decide_eq_true leaves, rfl⟩
      exact ih (Store.edgesUnder_delete unique stored).unique left

end Resumed

end Relations

end RecordSync
