import RecordSync.Proofs.Imports
import RecordSync.Proofs.Matching

set_option autoImplicit false

namespace RecordSync

namespace Sync

variable {α β : Type}

def ReadsOnly (act : Sync α) : Prop :=
  ∀ s, Session.Unmoved s (act s).2

theorem ReadsOnly.unmoved {act : Sync α} (reads : ReadsOnly act) {s t : Session}
    {r : Except WorkflowError α} (run : act s = (r, t)) : s.Unmoved t := by
  have unmoved := reads s
  rw [run] at unmoved
  exact unmoved

theorem readsOnly_pure (a : α) : ReadsOnly (pure a : Sync α) :=
  Session.Unmoved.refl

theorem readsOnly_bind {x : Sync α} {f : α → Sync β} (first : ReadsOnly x)
    (rest : ∀ a, ReadsOnly (f a)) : ReadsOnly (x >>= f) := by
  intro s
  rcases run : x s with ⟨a | a, u⟩
  · rw [bind_of_error run]
    exact first.unmoved run
  · rw [bind_of_ok run]
    exact (first.unmoved run).trans (rest a u)

theorem readsOnly_storeCall (call : StoreCall) : ReadsOnly (storeCall call) := by
  intro s
  show Session.Unmoved s (logged _ _ s).2
  cases s.faults.store s.calls.length call <;> exact s.unmoved_logged _ rfl

theorem readsOnly_relationsFrom (source : ObjectId) : ReadsOnly (relationsFrom source) :=
  readsOnly_bind (readsOnly_storeCall _) fun _ => Session.Unmoved.refl

theorem readsOnly_loadObject (id : ObjectId) : ReadsOnly (loadObject id) :=
  readsOnly_bind (readsOnly_storeCall _) fun _ => Session.Unmoved.refl

end Sync

namespace Relations

variable {s s' t : Session} {related gathered : Record}

theorem readsOnly_gather (edges : List Relation) (related : Record) :
    Sync.ReadsOnly (gather edges related) := by
  induction edges generalizing related with
  | nil => exact Sync.readsOnly_pure _
  | cons edge edges ih =>
    refine Sync.readsOnly_bind (Sync.readsOnly_loadObject _) fun there => ?_
    cases there <;> exact ih _

theorem gather_again {edges : List Relation}
    (run : gather edges related s = (.ok gathered, s')) (calm : t.Calm)
    (contents : t.store.contents = s.store.contents) :
    ∃ t', gather edges related t = (.ok gathered, t') ∧ t.Unmoved t' := by
  -- The two runs read the same data under each target, though statuses and versions may differ.
  induction edges generalizing related s t with
  | nil =>
    cases run
    exact ⟨t, rfl, .refl t⟩
  | cons edge edges ih =>
    obtain ⟨there, u, loaded, run⟩ := Sync.bind_eq_ok run
    obtain ⟨rfl, rfl⟩ := Sync.loadObject_eq_ok loaded
    have read := t.unmoved_logged (.store (.load edge.target)) rfl
    have data := Store.map_object?_congr contents edge.target
    unfold gather
    rw [Sync.bind_of_ok (Sync.loadObject_of_calm calm edge.target)]
    cases before : s.store.object? edge.target with
    | none =>
      cases after : t.store.object? edge.target with
      | none =>
        rw [before] at run
        obtain ⟨t', again, unmoved⟩ := ih run (read.toOnlyStore.calm calm) contents
        exact ⟨t', again, read.trans unmoved⟩
      | some target =>
        rw [before, after] at data
        cases data
    | some target =>
      cases after : t.store.object? edge.target with
      | none =>
        rw [before, after] at data
        cases data
      | some other =>
        rw [before, after] at data
        have same : other.data = target.data := Option.some.inj data
        rw [before] at run
        obtain ⟨t', again, unmoved⟩ := ih run (read.toOnlyStore.calm calm) contents
        rw [← same] at again
        exact ⟨t', again, read.trans unmoved⟩

theorem relatedData_again {source : ObjectId} (run : relatedData source s = (.ok gathered, s'))
    (calm : t.Calm) (contents : t.store.contents = s.store.contents)
    (relations : t.store.relations = s.store.relations) :
    ∃ t', relatedData source t = (.ok gathered, t') ∧ t.Unmoved t' := by
  obtain ⟨edges, u, read, run⟩ := Sync.bind_eq_ok run
  obtain ⟨rfl, rfl⟩ := Sync.relationsFrom_eq_ok read
  have reads := t.unmoved_logged (.store (.relationsFrom source)) rfl
  obtain ⟨t', again, unmoved⟩ := gather_again run (reads.toOnlyStore.calm calm) contents
  refine ⟨t', ?_, reads.trans unmoved⟩
  unfold relatedData
  rw [Sync.bind_of_ok (Sync.relationsFrom_of_calm calm source), Store.relationsFrom, relations]
  exact again

end Relations

namespace Workflow

variable {w : Workflow} {evaluate : Evaluator} {object again : CanonicalObject}
  {mapped key : Record} {there : Option Record} {passed : Bool} {s s' t : Session}

theorem readsOnly_admitsExport (w : Workflow) (evaluate : Evaluator) (object : CanonicalObject) :
    Sync.ReadsOnly (w.admitsExport evaluate object) := by
  unfold admitsExport
  split
  · exact Sync.readsOnly_pure _
  · refine Sync.readsOnly_bind ?_ fun _ => Sync.readsOnly_pure _
    exact Sync.readsOnly_bind (Sync.readsOnly_relationsFrom _) fun _ =>
      Relations.readsOnly_gather _ _

theorem answered_of_condition (stated : w.condition.isNone = false)
    (run : w.admitsExport evaluate object s = (.ok passed, s')) : s.faults.Answered := by
  unfold admitsExport at run
  rw [stated] at run
  obtain ⟨related, u, gathered, _⟩ := Sync.bind_eq_ok run
  obtain ⟨edges, v, read, _⟩ := Sync.bind_eq_ok gathered
  exact Sync.answered_of_storeCall read

theorem admitsExport_again (run : w.admitsExport evaluate object s = (.ok passed, s'))
    (sameId : again.id = object.id) (sameData : again.data = object.data)
    (calm : w.condition.isNone = false → t.Calm) (contents : t.store.contents = s.store.contents)
    (relations : t.store.relations = s.store.relations) :
    ∃ t', w.admitsExport evaluate again t = (.ok passed, t') ∧ t.Unmoved t' := by
  unfold admitsExport at run ⊢
  cases stated : w.condition.isNone with
  | true =>
    rw [stated] at run
    cases run
    exact ⟨t, rfl, .refl t⟩
  | false =>
    rw [stated] at run
    obtain ⟨related, u, gathered, run⟩ := Sync.bind_eq_ok run
    cases run
    obtain ⟨t', found, unmoved⟩ := Relations.relatedData_again gathered (calm stated) contents
      relations
    refine ⟨t', ?_, unmoved⟩
    rw [sameId, sameData]
    exact Sync.bind_of_ok found

structure Searches (w : Workflow) (mapped key : Record) (endpoint : Endpoint) : Prop where
  key : w.rowFilter? mapped = some key
  looks : endpoint.flushRequired = false
  resolves : endpoint.unresolvable = false

def Alike (e f : Endpoint) : Prop := f = { e with rows := f.rows }

theorem Searches.alike {e f : Endpoint} (searches : Searches w mapped key e) (alike : Alike e f) :
    Searches w mapped key f := by
  unfold Alike at alike
  rw [alike]
  exact ⟨searches.key, searches.looks, searches.resolves⟩

theorem lookup_eq {e : Endpoint} (resolves : e.unresolvable = false) (key : Record) :
    e.lookup key =
      Lookup.ofMatches (e.rows.filter fun row => (Filter.ofRecord key).accepts row) := by
  unfold Endpoint.lookup
  rw [resolves]
  rfl

theorem counterpart?_eq (searches : Searches w mapped key s.endpoint) :
    w.counterpart? mapped s = (do
      let found ← Sync.lookupRow key w.mapper.names
      Sync.only (.endpointObject w.endpoint) found) s := by
  unfold counterpart?
  show (if s.endpoint.flushRequired = true then _ else _ : Sync (Option Record)) s = _
  rw [searches.looks, searches.key]
  rfl

theorem counterpart?_eq_ok (searches : Searches w mapped key s.endpoint)
    (run : w.counterpart? mapped s = (.ok there, t)) :
    s.Unmoved t ∧ (s.endpoint.lookup key).Answers there := by
  rw [counterpart?_eq searches] at run
  obtain ⟨found, u, looked, run⟩ := Sync.bind_eq_ok run
  obtain ⟨rfl, rfl⟩ := Sync.lookupRow_eq_ok looked
  obtain ⟨rfl, answer⟩ := Sync.only_eq_ok run
  refine ⟨s.unmoved_logged _ rfl, ?_⟩
  cases there with
  | some row => exact answer
  | none =>
    -- An endpoint that cannot evaluate a filter would answer like one without a match.
    refine answer.resolve_right fun unresolvable => ?_
    rw [lookup_eq searches.resolves] at unresolvable
    exact Lookup.ofMatches_ne_unresolvable unresolvable

theorem counterpart?_of_answers (searches : Searches w mapped key s.endpoint)
    (lookups : ∀ n filter names, s.faults.endpoint n (.lookup filter names) = none)
    (answer : (s.endpoint.lookup key).Answers there) :
    ∃ t, w.counterpart? mapped s = (.ok there, t) ∧ s.Unmoved t := by
  refine ⟨s.logged (.endpoint (.lookup key w.mapper.names)), ?_, s.unmoved_logged _ rfl⟩
  rw [counterpart?_eq searches, Sync.bind_of_ok (Sync.lookupRow_of_none (lookups _ _ _))]
  cases there with
  | some row =>
    rw [show s.endpoint.lookup key = .found row from answer]
    rfl
  | none =>
    rw [show s.endpoint.lookup key = .notFound from answer]
    rfl

structure Identified (w : Workflow) (mapped : Record) : Prop where
  nonempty : mapped ≠ []
  identifiers : ∀ name ∈ w.identifiers, name ∈ Keyed.keys mapped

theorem fullIdentity?_of_image {names : List String} (image : w.mapper.Image mapped)
    (held : ∀ name ∈ names, name ∈ Keyed.keys mapped) :
    ∃ key, fullIdentity? mapped names = some key := by
  induction names with
  | nil => exact ⟨[], rfl⟩
  | cons name names ih =>
    obtain ⟨first, later⟩ := List.forall_mem_cons.1 held
    obtain ⟨rest, found⟩ := ih later
    obtain ⟨⟨_, v⟩, member, rfl⟩ := List.mem_map.1 first
    obtain ⟨_, _, _, _, nonempty, _⟩ := image.declared _ v member
    have there := Keyed.get?_of_mem image.distinct member
    have kept : (some v).filter (fun v => !v.isEmpty) = some v := by
      simp [nonempty]
    unfold fullIdentity?
    rw [there, kept, found]
    exact ⟨_, rfl⟩

theorem rowFilter?_of_identified (image : w.mapper.Image mapped)
    (identified : w.Identified mapped) : ∃ key, w.rowFilter? mapped = some key := by
  unfold rowFilter?
  cases names : w.identifiers with
  | nil => exact ⟨mapped, by simp [identified.nonempty]⟩
  | cons name rest =>
    obtain ⟨full, found⟩ := fullIdentity?_of_image image identified.identifiers
    have drawn := drawn_collect (drawn_fullIdentity? found)
    have nonempty : Keyed.collect full ≠ [] := by
      intro empty
      have listed := (drawn.1 name).2 (by rw [names]; exact List.mem_cons_self)
      rw [empty] at listed
      cases listed
    rw [names] at found
    exact ⟨Keyed.collect full, by simp [found, nonempty]⟩

theorem exportObject_eq_ok {time : Timestamp} {simulate : Bool} {o : Outcome}
    (run : w.exportObject evaluate object time simulate s = (.ok o, t)) :
    s.endpoint.name = w.endpoint ∧ ∃ passed u, w.admitsExport evaluate object s = (.ok passed, u) ∧
      (passed = false ∧ o = .skipped ∧ t = u ∨
        passed = true ∧ ∃ mapped there v, w.mapper.map evaluate object.data = .ok mapped ∧
          w.counterpart? mapped u = (.ok there, v) ∧
          w.deliver object mapped time simulate there v = (.ok o, t)) := by
  obtain ⟨_, u, checked, run⟩ := Sync.bind_eq_ok run
  by_cases bound : s.endpoint.name = w.endpoint
  · cases (checkEndpoint_of_eq bound).symm.trans checked
    obtain ⟨passed, u, admitted, run⟩ := Sync.bind_eq_ok run
    refine ⟨bound, passed, u, admitted, ?_⟩
    cases passed with
    | false =>
      cases run
      exact Or.inl ⟨rfl, rfl, rfl⟩
    | true =>
      obtain ⟨mapped, v, resolved, rest⟩ := Sync.bind_eq_ok run
      obtain ⟨mapping, same⟩ := Sync.mapping_eq_ok resolved
      obtain ⟨there, x, found, delivered⟩ := Sync.bind_eq_ok rest
      exact Or.inr ⟨rfl, mapped, there, x, mapping, same ▸ found, delivered⟩
  · cases (checkEndpoint_of_ne bound).symm.trans checked

theorem exportObject_of_refused {time : Timestamp} {simulate : Bool}
    (bound : s.endpoint.name = w.endpoint)
    (refused : w.admitsExport evaluate object s = (.ok false, t)) :
    w.exportObject evaluate object time simulate s = (.ok .skipped, t) := by
  unfold exportObject
  rw [Sync.bind_of_ok (checkEndpoint_of_eq bound), Sync.bind_of_ok refused]
  rfl

theorem exportObject_of_admitted {time : Timestamp} {simulate : Bool} {u : Session}
    (bound : s.endpoint.name = w.endpoint)
    (admitted : w.admitsExport evaluate object s = (.ok true, u))
    (mapping : w.mapper.map evaluate object.data = .ok mapped)
    (found : w.counterpart? mapped u = (.ok there, t)) :
    w.exportObject evaluate object time simulate s =
      w.deliver object mapped time simulate there t := by
  unfold exportObject
  rw [Sync.bind_of_ok (checkEndpoint_of_eq bound), Sync.bind_of_ok admitted, mapping]
  exact Sync.bind_of_ok found

end Workflow

end RecordSync
