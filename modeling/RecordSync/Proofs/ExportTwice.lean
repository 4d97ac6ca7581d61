import RecordSync.Proofs.Exports
import RecordSync.Proofs.NoDifference

set_option autoImplicit false

namespace RecordSync

namespace Endpoint

variable {existing : Record} {f : Record → Record} {rows after : List Record}

theorem replaceFirst_eq_some (run : replaceFirst existing f rows = some after) :
    ∃ before row rest, rows = before ++ row :: rest ∧ isRow existing row = true ∧
      after = before ++ f row :: rest := by
  induction rows generalizing after with
  | nil => cases run
  | cons row rest ih =>
    unfold replaceFirst at run
    split at run
    · rename_i same
      cases run
      exact ⟨[], row, rest, rfl, same, rfl⟩
    · obtain ⟨tail, replaced, rfl⟩ := Option.map_eq_some_iff.1 run
      obtain ⟨before, hit, later, split, same, rfl⟩ := ih replaced
      exact ⟨row :: before, hit, later, by rw [split]; rfl, same, rfl⟩

-- Where one row alone is accepted, and with it every row that equals it, the replacement of the
-- first such row leaves its result as the only accepted one.
theorem filter_replaceFirst {accepts : Record → Bool}
    (run : replaceFirst existing f rows = some after) (only : rows.filter accepts = [existing])
    (alike : ∀ row ∈ rows, isRow existing row = true → accepts row = true)
    (still : accepts (f existing) = true) : after.filter accepts = [f existing] := by
  -- The first row that equals `existing` is accepted itself, so it is the one that was found.
  obtain ⟨before, row, rest, rfl, same, rfl⟩ := replaceFirst_eq_some run
  have accepted : accepts row = true := alike row (by simp) same
  rw [List.filter_append, List.filter_cons_of_pos accepted] at only
  have lengths := congrArg List.length only
  simp only [List.length_append, List.length_cons, List.length_nil] at lengths
  have first : before.filter accepts = [] := List.eq_nil_of_length_eq_zero (by omega)
  have last : rest.filter accepts = [] := List.eq_nil_of_length_eq_zero (by omega)
  rw [first, last] at only
  obtain rfl := List.singleton_inj.1 only
  rw [List.filter_append, List.filter_cons_of_pos still, first, last]
  rfl

end Endpoint

namespace Workflow

variable {w : Workflow} {evaluate : Evaluator} {object : CanonicalObject} {mapped key : Record}
  {time : Timestamp} {there : Option Record} {s t : Session} {o : Outcome}

inductive Delivered (w : Workflow) (mapped : Record) (faults : Faults) : Option Record → Prop
  | idle {there : Option Record} (nothing : w.ensure.step there = .nothing) :
    Delivered w mapped faults there
  | same {row : Record} (update : w.ensure.step (some row) = .update row)
    (answered : faults.Answered) (none : w.mapper.diff mapped row = []) :
    Delivered w mapped faults (some row)

section Stamp

variable {result : String} {id : Option String}

theorem stamp_eq_ok (current : ∀ c ∈ s.store.contents, c.id = object.id → c.data = object.data)
    (run : w.stamp object time result id false s = (.ok (), t)) :
    s.faults.Answered ∧ s.OnlyStore t ∧ t.store.contents = s.store.contents ∧
      t.store.relations = s.store.relations := by
  obtain ⟨changed, beside⟩ := Sync.changeObject_eq_ok run
  exact ⟨Sync.answered_of_storeCall run, beside, Store.contents_change_of_same changed current,
    Store.relations_change changed⟩

theorem stamp_of_calm (calm : s.Calm) (stored : object.content ∈ s.store.contents) :
    ∃ t, w.stamp object time result id false s = (.ok (), t) ∧ s.KeepsRows t := by
  obtain ⟨stands, member, same⟩ := List.mem_map.1 stored
  have sameId : stands.id = object.id := congrArg ObjectContent.id same
  obtain ⟨store, changed⟩ := Store.change_of_mem member object.data
    (some (w.seed ⟨time, false, some result, id⟩))
  rw [sameId] at changed
  refine ⟨_, Sync.changeObject_of_calm calm changed, ⟨rfl, rfl⟩, [_], rfl, fun call listed => ?_⟩
  rw [List.mem_singleton.1 listed]
  rfl

end Stamp

theorem deliver_of_delivered (object : CanonicalObject) (time : Timestamp)
    (steady : s.faults.Steady) (stored : object.content ∈ s.store.contents)
    (delivered : Delivered w mapped s.faults there) :
    ∃ t, w.deliver object mapped time false there s = (.ok .unchanged, t) ∧ s.KeepsRows t := by
  unfold deliver
  cases delivered with
  | idle nothing =>
    rw [nothing]
    exact ⟨s, rfl, (Session.Unmoved.refl s).toKeepsRows⟩
  | same update answered none =>
    obtain ⟨t, stamped, kept⟩ := stamp_of_calm (steady.calm answered) stored
    rw [update]
    dsimp only
    rw [none]
    exact ⟨t, Sync.bind_of_ok stamped, kept⟩

structure Exported (w : Workflow) (mapped key : Record) (s t : Session) : Prop where
  contents : t.store.contents = s.store.contents
  relations : t.store.relations = s.store.relations
  faults : t.faults = s.faults
  alike : Alike s.endpoint t.endpoint
  delivered : ∃ there, (t.endpoint.lookup key).Answers there ∧ Delivered w mapped t.faults there

theorem Exported.of_unmoved {u : Session} (unmoved : s.Unmoved u)
    (exported : Exported w mapped key u t) : Exported w mapped key s t := by
  refine ⟨exported.contents.trans (congrArg _ unmoved.store),
    exported.relations.trans (congrArg _ unmoved.store), exported.faults.trans unmoved.faults, ?_,
    exported.delivered⟩
  rw [← unmoved.endpoint]
  exact exported.alike

theorem answers_of_filter {e : Endpoint} (resolves : e.unresolvable = false) {row : Record}
    (only : (e.rows.filter fun r => (Filter.ofRecord key).accepts r) = [row]) :
    (e.lookup key).Answers (some row) := by
  show e.lookup key = .found row
  rw [lookup_eq resolves, only]
  rfl

theorem delivered_of_row {row : Record} {faults : Faults} (stays : w.ensure ≠ .absent)
    (answered : faults.Answered) (none : w.mapper.diff mapped row = []) :
    Delivered w mapped faults (some row) := by
  cases ensure : w.ensure with
  | present => exact .idle (by rw [ensure]; rfl)
  | merge => exact .idle (by rw [ensure]; rfl)
  | latest => exact .same (by rw [ensure]; rfl) answered none
  | absent => exact absurd ensure stays

section Write

variable (searches : Searches w mapped key s.endpoint)
  (current : ∀ c ∈ s.store.contents, c.id = object.id → c.data = object.data)

include searches current

theorem exported_create {uid : Option Uid} {result : String} {id : Option String} {u : Session}
    (stays : w.ensure ≠ .absent) (none : s.endpoint.lookup key = .notFound)
    (matched : (Filter.ofRecord key).accepts mapped = true)
    (same : w.mapper.diff mapped mapped = [])
    (created : Sync.createRow mapped s = (.ok uid, u))
    (stamped : w.stamp object time result id false u = (.ok (), t)) :
    Exported w mapped key s t := by
  obtain ⟨row, store, faults⟩ := Sync.createRow_eq_ok created
  rw [← store] at current
  obtain ⟨answered, beside, contents, relations⟩ := stamp_eq_ok current stamped
  have appended : u.endpoint = { s.endpoint with rows := s.endpoint.rows ++ [mapped] } := by
    unfold Endpoint.create at row
    split at row
    · cases row
    · exact (Prod.mk.inj (Except.ok.inj row)).2.symm
  have alike : Alike s.endpoint t.endpoint := by
    rw [beside.endpoint, appended]
    rfl
  rw [lookup_eq searches.resolves, Lookup.ofMatches_eq_notFound_iff] at none
  refine ⟨contents.trans (congrArg _ store), relations.trans (congrArg _ store),
    beside.faults.trans faults, alike, some mapped, ?_, ?_⟩
  · apply answers_of_filter (searches.alike alike).resolves
    rw [beside.endpoint, appended, List.filter_append, none]
    simp [matched]
  · rw [beside.faults]
    exact delivered_of_row stays answered same

omit searches in
theorem exported_unchanged {row : Record} {result : String} {id : Option String}
    (stays : w.ensure ≠ .absent) (found : s.endpoint.lookup key = .found row)
    (none : w.mapper.diff mapped row = [])
    (stamped : w.stamp object time result id false s = (.ok (), t)) :
    Exported w mapped key s t := by
  obtain ⟨answered, beside, contents, relations⟩ := stamp_eq_ok current stamped
  have alike : Alike s.endpoint t.endpoint := by
    rw [beside.endpoint]
    rfl
  refine ⟨contents, relations, beside.faults, alike, some row, ?_, ?_⟩
  · rw [beside.endpoint]
    exact found
  · rw [beside.faults]
    exact delivered_of_row stays answered none

theorem exported_change {row : Record} {uid : Option Uid} {result : String} {id : Option String}
    {u : Session} (stays : w.ensure ≠ .absent) (found : s.endpoint.lookup key = .found row)
    (alikeRows : ∀ other ∈ s.endpoint.rows, Endpoint.isRow row other = true →
      (Filter.ofRecord key).accepts other = true)
    (still : (Filter.ofRecord key).accepts (w.mapper.converged mapped row) = true)
    (none : w.mapper.diff mapped (w.mapper.converged mapped row) = [])
    (changed : Sync.changeRow (Delta.ofChanges (w.mapper.diff mapped row)) mapped row s =
      (.ok uid, u))
    (stamped : w.stamp object time result id false u = (.ok (), t)) :
    Exported w mapped key s t := by
  obtain ⟨written, store, faults⟩ := Sync.changeRow_eq_ok changed
  rw [← store] at current
  obtain ⟨answered, beside, contents, relations⟩ := stamp_eq_ok current stamped
  unfold Endpoint.change at written
  split at written
  · rename_i rows replaced
    have after : u.endpoint = { s.endpoint with rows := rows } :=
      (Prod.mk.inj (Except.ok.inj written)).2.symm
    have alike : Alike s.endpoint t.endpoint := by
      rw [beside.endpoint, after]
      rfl
    rw [lookup_eq searches.resolves, Lookup.ofMatches_eq_found_iff] at found
    refine ⟨contents.trans (congrArg _ store), relations.trans (congrArg _ store),
      beside.faults.trans faults, alike, some (w.mapper.converged mapped row), ?_, ?_⟩
    · apply answers_of_filter (searches.alike alike).resolves
      rw [beside.endpoint, after]
      have only := Endpoint.filter_replaceFirst replaced found alikeRows still
      exact only
    · rw [beside.faults]
      exact delivered_of_row stays answered none
  · cases written

theorem exported_delete {row : Record} {result : String} {id : Option String} {u : Session}
    (absent : w.ensure = .absent) (found : s.endpoint.lookup key = .found row)
    (self : Endpoint.isRow row row = true)
    (deleted : Sync.deleteRow mapped row s = (.ok (), u))
    (stamped : w.stamp object time result id false u = (.ok (), t)) :
    Exported w mapped key s t := by
  obtain ⟨after, store, faults⟩ := Sync.deleteRow_eq_ok deleted
  rw [← store] at current
  obtain ⟨_, beside, contents, relations⟩ := stamp_eq_ok current stamped
  have alike : Alike s.endpoint t.endpoint := by
    rw [beside.endpoint, after]
    rfl
  rw [lookup_eq searches.resolves, Lookup.ofMatches_eq_found_iff] at found
  refine ⟨contents.trans (congrArg _ store), relations.trans (congrArg _ store),
    beside.faults.trans faults, alike, none, ?_, .idle (by rw [absent]; rfl)⟩
  show t.endpoint.lookup key = .notFound
  rw [lookup_eq (searches.alike alike).resolves, Lookup.ofMatches_eq_notFound_iff, beside.endpoint,
    after]
  unfold Endpoint.delete
  -- All rows that equal the one that was found go, and it was the only one accepted.
  rw [List.filter_filter, List.filter_congr fun _ _ => Bool.and_comm _ _, ← List.filter_filter,
    found]
  simp [self]

end Write

section Found

variable (image : w.mapper.Image mapped) (sound : w.mapper.Sound) (plain : w.mapper.Plain)
  (searches : Searches w mapped key s.endpoint)

include image sound plain searches

theorem accepts_searched (r : Record) :
    (Filter.ofRecord key).accepts r = true ↔ Matches mapped (w.searchNames mapped) r :=
  accepts_of_drawn (drawn_rowFilter? image.distinct searches.key)
    (plain_searchNames plain sound image)

theorem matches_of_found {row : Record} (found : s.endpoint.lookup key = .found row) :
    row ∈ s.endpoint.rows ∧ Matches mapped (w.searchNames mapped) row := by
  rw [lookup_eq searches.resolves, Lookup.ofMatches_eq_found_iff] at found
  have member : row ∈ s.endpoint.rows.filter fun r => (Filter.ofRecord key).accepts r := by
    rw [found]
    exact List.mem_singleton_self row
  obtain ⟨stored, accepted⟩ := List.mem_filter.1 member
  exact ⟨stored, (accepts_searched image sound plain searches row).1 accepted⟩

end Found

section Deliver

variable (image : w.mapper.Image mapped) (keyed : Record.WellKeyed mapped) (sound : w.mapper.Sound)
  (plain : w.mapper.Plain) (searches : Searches w mapped key s.endpoint)
  (rowsKeyed : ∀ row ∈ s.endpoint.rows, Record.WellKeyed row)
  (current : ∀ c ∈ s.store.contents, c.id = object.id → c.data = object.data)

include image keyed sound plain searches rowsKeyed current

theorem exported_update {row : Record} (native : s.endpoint.replaceOnly = false)
    (latest : w.ensure = .latest) (found : s.endpoint.lookup key = .found row)
    (run : w.deliver object mapped time false (some row) s = (.ok o, t)) :
    o ≠ .skipped ∧ Exported w mapped key s t := by
  have stays : w.ensure ≠ .absent := by
    rw [latest]
    nofun
  have step : w.ensure.step (some row) = .update row := by
    rw [latest]
    rfl
  obtain ⟨member, matching⟩ := matches_of_found image sound plain searches found
  have rowKeyed := rowsKeyed row member
  unfold deliver at run
  rw [step] at run
  dsimp only at run
  split at run
  · rename_i empty
    obtain ⟨_, v, stamped, run⟩ := Sync.bind_eq_ok run
    cases run
    exact ⟨nofun, exported_unchanged current stays found (List.isEmpty_iff.1 empty) stamped⟩
  · obtain ⟨delta, u, translated, run⟩ := Sync.bind_eq_ok run
    obtain ⟨rfl, rfl⟩ := Sync.nativeDelta_eq_ok translated
    obtain ⟨uid, v, changed, run⟩ := Sync.bind_eq_ok run
    obtain ⟨_, x, stamped, run⟩ := Sync.bind_eq_ok run
    cases run
    have direct : s.endpoint.nativeDelta (w.mapper.diff mapped row) =
        Delta.ofChanges (w.mapper.diff mapped row) := by
      unfold Endpoint.nativeDelta
      rw [native]
      rfl
    rw [direct] at changed
    have alikeRows : ∀ other ∈ s.endpoint.rows, Endpoint.isRow row other = true →
        (Filter.ofRecord key).accepts other = true := fun other there same =>
      (accepts_searched image sound plain searches other).2
        (matching.of_same rowKeyed (rowsKeyed other there) same)
    -- The search may be by attributes that the change wrote: what they were searched by is kept.
    have still : (Filter.ofRecord key).accepts (w.mapper.converged mapped row) = true :=
      (accepts_searched image sound plain searches _).2
        (matching.converged sound image keyed rowKeyed.distinct)
    have asked := s.unmoved_logged (.endpoint (.nativeDelta (w.mapper.diff mapped row))) rfl
    refine ⟨nofun, .of_unmoved asked ?_⟩
    exact exported_change (s := s.logged _) searches current stays found alikeRows still
      (Mapper.diff_converged keyed rowKeyed.distinct) changed stamped

theorem exported_deliver (native : s.endpoint.replaceOnly = false)
    (answer : (s.endpoint.lookup key).Answers there)
    (run : w.deliver object mapped time false there s = (.ok o, t)) :
    o ≠ .skipped ∧ Exported w mapped key s t := by
  -- One case for each way in which an export can end well.
  cases step : w.ensure.step there with
  | nothing =>
    unfold deliver at run
    rw [step] at run
    cases run
    exact ⟨nofun, rfl, rfl, rfl, rfl, there, answer, .idle step⟩
  | create =>
    obtain ⟨rfl, stays⟩ := Ensure.step_eq_create step
    unfold deliver at run
    rw [step] at run
    obtain ⟨uid, u, created, run⟩ := Sync.bind_eq_ok run
    obtain ⟨_, v, stamped, run⟩ := Sync.bind_eq_ok run
    cases run
    have matched : (Filter.ofRecord key).accepts mapped = true :=
      (accepts_searched image sound plain searches mapped).2
        (.self keyed (drawn_rowFilter? image.distinct searches.key).held)
    exact ⟨nofun, exported_create searches current stays answer matched
      (Mapper.diff_self image keyed) created stamped⟩
  | update row =>
    obtain ⟨rfl, latest⟩ := Ensure.step_eq_update step
    exact exported_update image keyed sound plain searches rowsKeyed current native latest answer
      run
  | delete row =>
    obtain ⟨rfl, absent⟩ := Ensure.step_eq_delete step
    obtain ⟨member, _⟩ := matches_of_found image sound plain searches answer
    unfold deliver at run
    rw [step] at run
    obtain ⟨_, u, deleted, run⟩ := Sync.bind_eq_ok run
    obtain ⟨_, v, stamped, run⟩ := Sync.bind_eq_ok run
    cases run
    exact ⟨nofun, exported_delete searches current absent answer
      (Value.same_self (rowsKeyed row member)) deleted stamped⟩

end Deliver

section Again

variable {again : CanonicalObject} (steady : s.faults.Steady)
  (bound : s.endpoint.name = w.endpoint) (same : again.content = object.content)

include steady bound same

theorem refused_again (refused : w.admitsExport evaluate object s = (.ok false, t))
    (later : Timestamp) :
    ∃ u, w.exportObject evaluate again later false t = (.ok .skipped, u) ∧ t.Unmoved u := by
  have reads := (readsOnly_admitsExport w evaluate object).unmoved refused
  have calm (stated : w.condition.isNone = false) : t.Calm :=
    reads.toOnlyStore.calm (steady.calm (answered_of_condition stated refused))
  obtain ⟨u, refusedAgain, unmoved⟩ := admitsExport_again refused
    (congrArg ObjectContent.id same) (congrArg ObjectContent.data same) calm
    (congrArg _ reads.store) (congrArg _ reads.store)
  have boundAfter := (congrArg Endpoint.name reads.endpoint).trans bound
  exact ⟨u, exportObject_of_refused boundAfter refusedAgain, unmoved⟩

theorem delivered_again (searches : Searches w mapped key s.endpoint)
    (stored : object.content ∈ s.store.contents) {s' : Session}
    (admitted : w.admitsExport evaluate object s = (.ok true, s'))
    (mapping : w.mapper.map evaluate object.data = .ok mapped)
    (exported : Exported w mapped key s t) (later : Timestamp) :
    ∃ u, w.exportObject evaluate again later false t = (.ok .unchanged, u) ∧ t.KeepsRows u := by
  have sameData : again.data = object.data := congrArg ObjectContent.data same
  have calm (stated : w.condition.isNone = false) : t.Calm := by
    unfold Session.Calm
    rw [exported.faults]
    exact steady.calm (answered_of_condition stated admitted)
  obtain ⟨t', passed, unmoved⟩ := admitsExport_again admitted (congrArg ObjectContent.id same)
    sameData calm exported.contents exported.relations
  obtain ⟨after, answer, delivered⟩ := exported.delivered
  rw [← unmoved.endpoint] at answer
  obtain ⟨u, found, looked⟩ := counterpart?_of_answers
    (by rw [unmoved.endpoint]; exact searches.alike exported.alike)
    (by rw [unmoved.faults, exported.faults]; exact steady.lookup) answer
  have moved := unmoved.trans looked
  rw [← moved.faults] at delivered
  obtain ⟨x, done, kept⟩ := deliver_of_delivered again later
    (by rw [moved.faults, exported.faults]; exact steady)
    (by rw [moved.store, exported.contents, same]; exact stored) delivered
  refine ⟨x, ?_, moved.toKeepsRows.trans kept⟩
  have boundAfter : t.endpoint.name = w.endpoint := by
    have alike := congrArg Endpoint.name exported.alike
    exact alike.trans bound
  rw [exportObject_of_admitted boundAfter passed (sameData ▸ mapping) found, done]

end Again

-- An object that was exported has nothing more to bring: a second export is turned away where the
-- first was, and otherwise finds everything unchanged, asks the endpoint for no write and leaves
-- its rows as they are. The object may stand in the store with other statuses by then.
theorem exported_again_unchanged {spec : WorkflowSpec} {w : Workflow} {evaluate : Evaluator}
    {object : CanonicalObject} {time : Timestamp} {s t : Session} {o : Outcome}
    {compile : Pattern.Compiler} (accepted : ofSpec compile spec = .ok w) (plain : w.mapper.Plain)
    (specKeyed : Record.WellKeyed spec.attributes) (evaluateKeyed : evaluate.WellKeyed)
    (wellFormed : s.store.WellFormed)
    (rowsKeyed : ∀ row ∈ s.endpoint.rows, Record.WellKeyed row) (steady : s.faults.Steady)
    (looks : s.endpoint.flushRequired = false) (resolves : s.endpoint.unresolvable = false)
    (native : s.endpoint.replaceOnly = false) (current : object ∈ s.store.objects)
    (identified : ∀ mapped, w.mapper.map evaluate object.data = .ok mapped → w.Identified mapped)
    (first : w.exportObject evaluate object time false s = (.ok o, t)) (later : Timestamp)
    (again : CanonicalObject) (same : again.content = object.content) :
    ∃ u, w.exportObject evaluate again later false t =
        (.ok (if o = .skipped then .skipped else .unchanged), u) ∧
      u.endpoint = t.endpoint ∧
      ∃ log, u.calls = t.calls ++ log ∧ ∀ call ∈ log, Session.writesRows call = false := by
  obtain ⟨bound, passed, s', admitted, rest⟩ := exportObject_eq_ok first
  rcases rest with ⟨rfl, rfl, rfl⟩ | ⟨rfl, mapped, there, v, mapping, found, run⟩
  · obtain ⟨u, refused, unmoved⟩ := refused_again steady bound same admitted later
    exact ⟨u, refused, unmoved.endpoint, unmoved.calls⟩
  · have reads := (readsOnly_admitsExport w evaluate object).unmoved admitted
    have image := Mapper.image_map mapping
    have keyed := Mapper.wellKeyed_map evaluateKeyed (wellKeyed_ofSpec specKeyed accepted)
      (wellFormed.data object current) mapping
    have stored : object.content ∈ s.store.contents := List.mem_map_of_mem current
    obtain ⟨key, searchKey⟩ := rowFilter?_of_identified image (identified mapped mapping)
    have searches : Searches w mapped key s.endpoint := ⟨searchKey, looks, resolves⟩
    obtain ⟨searched, answer⟩ := counterpart?_eq_ok (by rw [reads.endpoint]; exact searches) found
    -- Both the condition and the search only read, so `v` differs from `s` in its log at most.
    have reached := reads.trans searched
    have data : ∀ c ∈ v.store.contents, c.id = object.id → c.data = object.data := by
      rw [reached.store]
      intro c member named
      rw [wellFormed.objects.content_eq member stored named]
      rfl
    obtain ⟨processed, exported⟩ := exported_deliver image keyed (sound_ofSpec accepted) plain
      (by rw [reached.endpoint]; exact searches) (by rw [reached.endpoint]; exact rowsKeyed) data
      (by rw [reached.endpoint]; exact native) (by rw [searched.endpoint]; exact answer) run
    obtain ⟨u, unchanged, kept⟩ := delivered_again steady bound same searches stored admitted
      mapping (exported.of_unmoved reached) later
    rw [if_neg processed]
    exact ⟨u, unchanged, kept.endpoint, kept.calls⟩

theorem exported_again_unchanged_for_found_row :
    let spec : WorkflowSpec := ⟨"people", "people", "ldap", .latest, some "true", ["login"],
      [("login", .object [("from", .string "login"), ("ensure", .string "EXISTS")]),
        ("groups", .object [("from", .string "groups"), ("type", .string "array"),
          ("ensure", .string "MERGE")])]⟩
    let evaluate : Evaluator := fun _ _ => .ok (.bool true)
    let ann : CanonicalObject :=
      ⟨⟨1⟩, "people", 1, [("login", .string "ann"), ("groups", .array [.string "b"])], []⟩
    let row : Record := [("login", .array [.string "anna", .string "ann"]), ("groups", .string "a")]
    let s : Session := ⟨⟨[ann], [], 2, 1⟩, { Endpoint.named "ldap" with rows := [row] }, [], .never⟩
    ∃ w t u, ofSpec (Pattern.among []) spec = .ok w ∧
      w.exportObject evaluate ann ⟨1, 0⟩ false s = (.ok .updated, t) ∧
      w.exportObject evaluate ann ⟨2, 0⟩ false t = (.ok .unchanged, u) ∧
      u.endpoint = t.endpoint ∧
      ∃ log, u.calls = t.calls ++ log ∧ ∀ call ∈ log, Session.writesRows call = false := by
  intro spec evaluate ann row s
  let w : Workflow := {
    name := "people"
    collection := "people"
    endpoint := "ldap"
    ensure := .latest
    condition := some "true"
    identifiers := ["login"]
    mapper := ⟨[⟨"login", [.path "login"], .string, .present, true, [], none, none, none⟩,
      ⟨"groups", [.path "groups"], .array, .merge, true, [], none, none, none⟩], by decide⟩
    ensure_ne_merge := by decide
    resolvable := by simp [Mapper.Resolvable, Mapper.find?] }
  have accepted : ofSpec (Pattern.among []) spec = .ok w := by
    dsimp only [spec, w]
    rfl
  have mapping : w.mapper.map evaluate ann.data = .ok ann.data := by
    simp [w, ann, Mapper.map, Mapper.mapAll, AttributeDefinition.resolve]
    rfl
  have first : ∃ t, w.exportObject evaluate ann ⟨1, 0⟩ false s = (.ok .updated, t) := by
    rw [exportObject_of_admitted rfl rfl mapping rfl]
    exact ⟨_, rfl⟩
  obtain ⟨t, first⟩ := first
  have annKeyed : Record.WellKeyed ann.data := by
    simp [ann, Record.wellKeyed_iff, Keyed.distinct_cons, Value.wellKeyed_array_iff]
  have wellFormed : s.store.WellFormed := by
    refine ⟨⟨by decide, by decide⟩, ⟨List.nodup_nil, List.forall_mem_nil _⟩, ?_⟩
    intro o member
    rw [List.mem_singleton.1 member]
    exact annKeyed
  have rowsKeyed : ∀ r ∈ s.endpoint.rows, Record.WellKeyed r := by
    intro r member
    rw [List.mem_singleton.1 member]
    simp [row, Record.wellKeyed_iff, Keyed.distinct_cons, Value.wellKeyed_array_iff]
  have specKeyed : Record.WellKeyed spec.attributes := by
    simp [spec, Record.WellKeyed, Value.WellKeyed, Value.WellKeyedFields, Keyed.distinct_cons]
  have evaluateKeyed : evaluate.WellKeyed := by
    rintro code context v _ ⟨⟩
    exact Value.wellKeyed_bool true
  have plain : w.mapper.Plain := by
    unfold Mapper.Plain
    decide
  have steady : s.faults.Steady := ⟨Or.inl fun _ _ => rfl, fun _ _ _ => rfl⟩
  have identified : ∀ mapped, w.mapper.map evaluate ann.data = .ok mapped →
      w.Identified mapped := by
    intro mapped resolved
    cases mapping.symm.trans resolved
    exact ⟨by simp [ann], by decide⟩
  obtain ⟨u, second, rows, calls⟩ := exported_again_unchanged accepted plain specKeyed evaluateKeyed
    wellFormed rowsKeyed steady rfl rfl rfl (List.mem_singleton_self ann) identified first ⟨2, 0⟩
    ann rfl
  exact ⟨w, t, u, accepted, first, second, rows, calls⟩

end Workflow

end RecordSync
