import RecordSync.Proofs.EdgeCounts

set_option autoImplicit false

namespace RecordSync

theorem Store.targetOf_eq (s : Store) (link : RelationLink) (value : Value) :
    s.targetOf link value =
      (Lookup.ofMatches (s.matching link.collection (.equals link.attributeName value))).map
        ObjectContent.id := by
  rw [← map_lookup, targetOf]
  cases s.lookup link.collection (.equals link.attributeName value) <;> rfl

namespace Relations

structure Reconciled (s t : Store) (source : ObjectId) (data : Record) (d : AttributeDefinition)
    (link : RelationLink) : Prop where
  cleared : d.ensure = .absent ∨ d.ensure = .latest ∧ linkValue data d = none →
    edgesOf t.relations source d.name = []
  kept : d.ensure = .present ∨ d.ensure = .merge → linkValue data d = none →
    edgesOf t.relations source d.name = edgesOf s.relations source d.name
  linked : d.ensure ≠ .absent → ∀ value, linkValue data d = some value →
    s.matching link.collection (.equals link.attributeName value) = [] ∧
        edgesOf t.relations source d.name = edgesOf s.relations source d.name ∨
      ∃ o edge, s.matching link.collection (.equals link.attributeName value) = [o] ∧
        edgesOf t.relations source d.name = [edge] ∧
        match edgesOf s.relations source d.name with
        | [] => edge.target = o.id
        | first :: _ => edge = if d.ensure = .present then first else { first with target := o.id }

def misses (s : Store) (data : Record) (d : AttributeDefinition) : Bool :=
  match d.relation, linkValue data d with
  | some link, some value => d.ensure ≠ .absent &&
    (s.matching link.collection (.equals link.attributeName value)).isEmpty
  | _, _ => false

variable {s t : Session} {source : ObjectId} {data : Record} {d : AttributeDefinition}
  {link : RelationLink} {a : Aim}

theorem aim_eq_ok {store : Store} (related : d.relation = some link)
    (aimed : aim store.targetOf data d = .ok a) :
    Clears data d ∧ a = .clear ∨ ¬ Clears data d ∧ linkValue data d = none ∧ a = .leave ∨
      d.ensure ≠ .absent ∧ ∃ value, linkValue data d = some value ∧
        (store.matching link.collection (.equals link.attributeName value) = [] ∧ a = .miss ∨
          ∃ o, store.matching link.collection (.equals link.attributeName value) = [o] ∧
            a = .point o.id) := by
  by_cases clears : Clears data d
  · rw [aim_of_clears related clears] at aimed
    cases aimed
    exact Or.inl ⟨clears, rfl⟩
  · cases linked : linkValue data d with
    | none =>
      rw [aim_of_none related clears linked] at aimed
      cases aimed
      exact Or.inr (Or.inl ⟨clears, rfl, rfl⟩)
    | some value =>
      have present : d.ensure ≠ .absent := fun absent => clears (Or.inl absent)
      refine Or.inr (Or.inr ⟨present, value, rfl, ?_⟩)
      unfold aim at aimed
      rw [related] at aimed
      dsimp only at aimed
      rw [linked, if_neg (by simp [present])] at aimed
      dsimp only at aimed
      rw [Store.targetOf_eq] at aimed
      match found : store.matching link.collection (.equals link.attributeName value) with
      | [] =>
        rw [found] at aimed
        cases aimed
        exact Or.inl ⟨rfl, rfl⟩
      | [o] =>
        rw [found] at aimed
        cases aimed
        exact Or.inr ⟨o, rfl, rfl⟩
      | _ :: _ :: _ =>
        rw [found] at aimed
        cases aimed

theorem not_clears_of_kept (mode : d.ensure = .present ∨ d.ensure = .merge) : ¬ Clears data d := by
  rcases mode with mode | mode <;> simp [Clears, mode]

theorem not_clears_of_linked {value : Value} (present : d.ensure ≠ .absent)
    (linked : linkValue data d = some value) : ¬ Clears data d := by
  simp [Clears, present, linked]

theorem reconciled_of_leaves {before after : Store} {fresh : RelationId}
    (related : d.relation = some link) (aimed : aim before.targetOf data d = .ok a)
    (edges : edgesOf after.relations source d.name =
      a.leaves d source fresh (edgesOf before.relations source d.name)) :
    Reconciled before after source data d link := by
  -- Of the three conclusions one is about this aim, and the others ask for something else.
  rcases aim_eq_ok related aimed with
    ⟨clears, rfl⟩ | ⟨keeps, unlinked, rfl⟩ | ⟨present, value, linked, found⟩
  · exact ⟨fun _ => edges, fun mode _ => absurd clears (not_clears_of_kept mode),
      fun present _ linked => absurd clears (not_clears_of_linked present linked)⟩
  · refine ⟨fun clears => absurd clears keeps, fun _ _ => edges, fun _ value linked => ?_⟩
    cases unlinked.symm.trans linked
  · refine ⟨fun clears => absurd clears (not_clears_of_linked present linked),
      fun _ unlinked => ?_, fun _ other same => ?_⟩
    · cases linked.symm.trans unlinked
    · cases linked.symm.trans same
      rcases found with ⟨none, rfl⟩ | ⟨o, one, rfl⟩
      · exact Or.inl ⟨none, edges⟩
      · refine Or.inr ⟨o, ?_⟩
        cases current : edgesOf before.relations source d.name with
        | nil =>
          rw [current] at edges
          exact ⟨_, one, edges, rfl⟩
        | cons first extra =>
          rw [current] at edges
          refine ⟨_, one, edges, ?_⟩
          -- An edge that points there already is as it would be retargeted.
          by_cases stays : d.ensure = .present
          · simp [stays]
          · obtain ⟨id, leaves, points, name⟩ := first
            by_cases same : points = o.id
            · subst same
              simp [stays]
            · simp [stays, same]

theorem skipped_aim {store : Store} {relations : List Relation}
    (aimed : aim store.targetOf data d = .ok a) :
    (a.changes d (edgesOf relations source d.name)).skipped =
      if misses store data d then 1 else 0 := by
  cases related : d.relation with
  | none =>
    rw [aim_of_unrelated related] at aimed
    cases aimed
    simp [misses, related, Aim.changes, EdgeChanges.zero]
  | some link =>
    rcases aim_eq_ok related aimed with
      ⟨clears, rfl⟩ | ⟨_, unlinked, rfl⟩ | ⟨present, value, linked, ⟨none, rfl⟩ | ⟨o, one, rfl⟩⟩
    · rcases clears with absent | ⟨_, unlinked⟩
      · cases linked : linkValue data d <;> simp [misses, related, linked, absent, Aim.changes]
      · simp [misses, related, unlinked, Aim.changes]
    · simp [misses, related, unlinked, Aim.changes, EdgeChanges.zero]
    · simp [misses, related, linked, none, present, Aim.changes]
    · cases edgesOf relations source d.name with
      | nil => simp [misses, related, linked, one, Aim.changes]
      | cons edge extra =>
        simp only [Aim.changes]
        split <;> simp [misses, related, linked, one]

theorem isEmpty_of_idle {store : Store} (unique : store.UniqueRelations) {targets : Targets}
    {ds : List AttributeDefinition} (names : (ds.map AttributeDefinition.name).Nodup)
    {changes : EdgeChanges} (idle : (planAll targets source data store.relations ds).writes = [])
    (ok : (planAll targets source data store.relations ds).result = .ok changes) :
    changes.isEmpty = true := by
  obtain ⟨created, updated, deleted⟩ := counts_planAll unique names ok
  rw [idle] at created updated deleted
  have none : changes.created = 0 :=
    created.trans (congrArg List.length (Store.filter_new_self store.relations))
  have still : changes.updated = 0 :=
    updated.trans (congrArg List.length (Store.filter_moved_self unique.ids))
  have kept : changes.deleted = 0 :=
    deleted.trans (congrArg List.length (Store.filter_new_self store.relations))
  simp [EdgeChanges.isEmpty, none, still, kept]

theorem plan_again {m : Mapper} {store : Store} (unique : store.UniqueRelations)
    {changes : EdgeChanges} (ok : (plan m source data store).result = .ok changes) :
    let after := store.written false (plan m source data store).writes
    (plan m source data after).writes = [] ∧
      ∃ again, (plan m source data after).result = .ok again ∧ again.isEmpty = true := by
  intro after
  obtain ⟨under, idle⟩ :
      store.EdgesUnder source (m.related.map AttributeDefinition.name) after ∧
        (planAll store.targetOf source data after.relations m.related).writes = [] :=
    planAll_written unique m.nodup_related (List.append_nil _).symm
  -- Targets are searched among objects, and no object was written.
  have targets : after.targetOf = store.targetOf := by
    funext link value
    exact Store.targetOf_congr under.contents link value
  unfold plan at ok ⊢
  rw [targets]
  obtain ⟨again, okAgain⟩ := (planAll_result_isOk after.relations).2
    ((planAll_result_isOk store.relations).1 ⟨changes, ok⟩)
  exact ⟨idle, again, okAgain, isEmpty_of_idle under.unique m.nodup_related idle okAgain⟩

theorem reconcile_of_idle {m : Mapper} (idle : (plan m source data s.store).writes = [])
    (ends : ∃ changes, (plan m source data s.store).result = .ok changes ∧ changes.isEmpty = true)
    {result : Except WorkflowError EdgeChanges}
    (run : reconcile m source data false s = (result, t)) :
    t.store = s.store ∧ (∀ changes, result = .ok changes → changes.isEmpty = true) ∧
      (s.Calm → ∃ changes, result = .ok changes) := by
  obtain ⟨planned, ok, empty⟩ := ends
  have performs : Sync.Performs (reconcile m source data false) s false _ :=
    performs_reconcile m source data
  refine ⟨?_, ?_, fun calm => ⟨planned, ?_⟩⟩
  · obtain ⟨part, before, store⟩ := performs.exists_prefix
    rw [idle, List.prefix_nil] at before
    rw [run, before] at store
    exact store
  · rintro changes rfl
    obtain ⟨same, _⟩ := performs.of_ok run
    cases same.symm.trans ok
    exact empty
  · have ended := (performs.of_calm calm).1
    rw [run] at ended
    exact ended.trans ok

theorem sum_map_ite {α : Type} (p : α → Bool) (xs : List α) :
    (xs.map fun x => if p x then 1 else 0).sum = (xs.filter p).length := by
  induction xs with
  | nil => rfl
  | cons x xs ih => cases counted : p x <;> simp [counted, ih, Nat.add_comm]

-- A reconciliation that succeeds leaves each attribute's edges as they are asked for and all other
-- edges as they were, and counts the edges that it created, retargeted and deleted, and the targets
-- that it did not find. Done again it changes nothing, and says so unless the store fails.
theorem reconcile_reaches_target {m : Mapper} {changes : EdgeChanges}
    (unique : s.store.UniqueRelations)
    (run : reconcile m source data false s = (.ok changes, t)) :
    (∀ d ∈ m.related, ∀ link, d.relation = some link →
      Reconciled s.store t.store source data d link) ∧
    t.store.objects = s.store.objects ∧
    (t.store.relations.filter fun r =>
        ¬(r.source = source ∧ r.attributeName ∈ m.related.map AttributeDefinition.name)) =
      (s.store.relations.filter fun r =>
        ¬(r.source = source ∧ r.attributeName ∈ m.related.map AttributeDefinition.name)) ∧
    changes.created = (s.store.created t.store).length ∧
    changes.updated = (s.store.retargeted t.store).length ∧
    changes.deleted = (s.store.deleted t.store).length ∧
    changes.skipped = (m.related.filter (misses s.store data)).length ∧
    ∀ result u, reconcile m source data false t = (result, u) →
      u.store = t.store ∧ (∀ again, result = .ok again → again.isEmpty = true) ∧
        (s.Calm → ∃ again, result = .ok again) := by
  obtain ⟨ok, written⟩ := (performs_reconcile m source data).of_ok run
  have under : s.store.EdgesUnder source (m.related.map AttributeDefinition.name) t.store := by
    rw [written]
    exact (planAll_written unique m.nodup_related (List.append_nil _).symm).1
  obtain ⟨created, updated, deleted⟩ :
      changes.created = (s.store.created t.store).length ∧
        changes.updated = (s.store.retargeted t.store).length ∧
        changes.deleted = (s.store.deleted t.store).length := by
    rw [written]
    exact counts_planAll unique m.nodup_related ok
  have skipped : changes.skipped = (m.related.filter (misses s.store data)).length := by
    rw [← sum_map_ite]
    exact total_planAll rfl (fun _ _ => rfl) (fun d _ _ aimed => skipped_aim aimed) ok
  have second := plan_again unique ok
  rw [← written] at second
  refine ⟨fun d member link related => ?_, under.objects, under.others, created, updated, deleted,
    skipped, fun result u again => ?_⟩
  · obtain ⟨a, fresh, aimed, _, edges⟩ := edgesOf_planAll unique m.nodup_related ok d member
    exact reconciled_of_leaves related aimed (written ▸ edges)
  · obtain ⟨same, empty, ends⟩ := reconcile_of_idle second.1 second.2 again
    exact ⟨same, empty, fun calm =>
      ends (((onEdges_reconcile _ _ _ _).sameObjects run).toOnlyStore.calm calm)⟩

theorem reconcile_reaches_target_for_ann :
    let link : Value := .object [("collection", .string "people"), ("attribute", .string "login")]
    let specs : Record := [
      ("boss", .object [("from", .string "boss"), ("relation", link)]),
      ("mentor", .object [("from", .string "mentor"), ("ensure", .string "EXISTS"),
        ("relation", link)]),
      ("friend", .object [("from", .string "friend"), ("relation", link)]),
      ("guide", .object [("from", .string "guide"), ("relation", link)]),
      ("deputy", .object [("from", .string "deputy"), ("relation", link)])]
    let data : Record := [("boss", .string "bob"), ("mentor", .string "bob"),
      ("guide", .string "cy"), ("deputy", .string "dan")]
    let edges : List Relation := [⟨⟨1⟩, ⟨1⟩, ⟨3⟩, "boss"⟩, ⟨⟨2⟩, ⟨1⟩, ⟨2⟩, "boss"⟩,
      ⟨⟨3⟩, ⟨1⟩, ⟨3⟩, "mentor"⟩, ⟨⟨4⟩, ⟨1⟩, ⟨2⟩, "friend"⟩, ⟨⟨5⟩, ⟨2⟩, ⟨3⟩, "boss"⟩]
    let people := [Workflow.person 1 "ann", Workflow.person 2 "bob", Workflow.person 3 "cy"]
    let s : Session := ⟨⟨people, edges, 4, 6⟩, .named "ldap", [], .never⟩
    ∃ m t, Mapper.ofRecord (Pattern.among []) specs = .ok m ∧ s.store.UniqueRelations ∧
      reconcile m ⟨1⟩ data false s = (.ok ⟨1, 1, 2, 1⟩, t) ∧
      t.store.relations = [⟨⟨1⟩, ⟨1⟩, ⟨2⟩, "boss"⟩, ⟨⟨3⟩, ⟨1⟩, ⟨3⟩, "mentor"⟩,
        ⟨⟨5⟩, ⟨2⟩, ⟨3⟩, "boss"⟩, ⟨⟨6⟩, ⟨1⟩, ⟨3⟩, "guide"⟩] ∧
      (∀ d ∈ m.related, ∀ link, d.relation = some link →
        Reconciled s.store t.store ⟨1⟩ data d link) ∧
      1 = (s.store.created t.store).length ∧ 1 = (s.store.retargeted t.store).length ∧
      2 = (s.store.deleted t.store).length ∧
      1 = (m.related.filter (misses s.store data)).length ∧
      ∀ result u, reconcile m ⟨1⟩ data false t = (result, u) →
        u.store = t.store ∧ ∃ again, result = .ok again ∧ again.isEmpty = true := by
  intro link specs data edges people s
  let people : RelationLink := ⟨"people", "login"⟩
  let m : Mapper := ⟨[⟨"boss", [.path "boss"], .string, .latest, true, [], none, none, some people⟩,
    ⟨"mentor", [.path "mentor"], .string, .present, true, [], none, none, some people⟩,
    ⟨"friend", [.path "friend"], .string, .latest, true, [], none, none, some people⟩,
    ⟨"guide", [.path "guide"], .string, .latest, true, [], none, none, some people⟩,
    ⟨"deputy", [.path "deputy"], .string, .latest, true, [], none, none, some people⟩], by decide⟩
  have accepted : Mapper.ofRecord (Pattern.among []) specs = .ok m := rfl
  have unique : s.store.UniqueRelations := ⟨by decide, by decide⟩
  let t : Session := (reconcile m ⟨1⟩ data false s).2
  have ends : (reconcile m ⟨1⟩ data false s).1.toOption = some ⟨1, 1, 2, 1⟩ := by decide +kernel
  have run : reconcile m ⟨1⟩ data false s = (.ok ⟨1, 1, 2, 1⟩, t) :=
    Prod.ext (Numeral.of_toOption_eq_some ends) rfl
  have relations : t.store.relations = [⟨⟨1⟩, ⟨1⟩, ⟨2⟩, "boss"⟩, ⟨⟨3⟩, ⟨1⟩, ⟨3⟩, "mentor"⟩,
    ⟨⟨5⟩, ⟨2⟩, ⟨3⟩, "boss"⟩, ⟨⟨6⟩, ⟨1⟩, ⟨3⟩, "guide"⟩] := by
    decide +kernel
  obtain ⟨reconciled, _, _, created, updated, deleted, skipped, second⟩ :=
    reconcile_reaches_target unique run
  refine ⟨m, t, accepted, unique, run, relations, reconciled, created, updated, deleted, skipped,
    fun result u again => ?_⟩
  obtain ⟨same, empty, ends⟩ := second result u again
  obtain ⟨changes, ended⟩ := ends fun _ _ => rfl
  exact ⟨same, changes, ended, empty changes ended⟩

end Relations

end RecordSync
