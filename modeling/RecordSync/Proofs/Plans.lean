import RecordSync.Proofs.Edges

set_option autoImplicit false

namespace RecordSync

inductive StoreWrite where
  | createObject (collection : String) (data : Record) (seed : StatusSeed)
  | changeObject (id : ObjectId) (data : Record) (seed : StatusSeed)
  | deleteObject (id : ObjectId)
  | createRelation (source target : ObjectId) (name : String)
  | updateRelation (id : RelationId) (target : ObjectId)
  | deleteRelation (id : RelationId)

namespace Store

def apply (simulate : Bool) (s : Store) : StoreWrite → Store
  | .createObject collection data seed => (s.create collection data simulate (some seed)).2
  | .changeObject id data seed =>
    match s.change id data simulate (some seed) with
    | .ok t => t
    | .error _ => s
  | .deleteObject id => s.delete id simulate
  | .createRelation source target name => (s.createRelation source target name simulate).2
  | .updateRelation id target => s.updateRelation id target simulate
  | .deleteRelation id => s.deleteRelation id simulate

def written (simulate : Bool) (s : Store) (writes : List StoreWrite) : Store :=
  writes.foldl (apply simulate) s

variable {simulate : Bool} {s : Store}

@[simp] theorem written_nil : s.written simulate [] = s := rfl

@[simp] theorem written_cons (x : StoreWrite) (xs : List StoreWrite) :
    s.written simulate (x :: xs) = (s.apply simulate x).written simulate xs := rfl

@[simp] theorem written_append (xs ys : List StoreWrite) :
    s.written simulate (xs ++ ys) = (s.written simulate xs).written simulate ys :=
  List.foldl_append

end Store

structure Plan (α : Type) where
  writes : List StoreWrite
  result : Except WorkflowError α

namespace Plan

variable {α β : Type}

def done (a : α) : Plan α := ⟨[], .ok a⟩

def fails (e : WorkflowError) : Plan α := ⟨[], .error e⟩

def write (x : StoreWrite) (a : α) : Plan α := ⟨[x], .ok a⟩

def andThen (p : Plan α) (next : α → Plan β) : Plan β :=
  match p.result with
  | .ok a => ⟨p.writes ++ (next a).writes, (next a).result⟩
  | .error e => ⟨p.writes, .error e⟩

variable {p : Plan α} {next : α → Plan β}

theorem andThen_of_ok {a : α} (ok : p.result = .ok a) :
    p.andThen next = ⟨p.writes ++ (next a).writes, (next a).result⟩ := by
  unfold andThen
  rw [ok]

theorem andThen_of_error {e : WorkflowError} (failed : p.result = .error e) :
    p.andThen next = ⟨p.writes, .error e⟩ := by
  unfold andThen
  rw [failed]

@[simp] theorem done_andThen (a : α) : (done a).andThen next = next a := rfl

def only (target : SearchTarget) : Lookup α → Plan (Option α)
  | .found a => done (some a)
  | .notFound | .unresolvable => done none
  | .multiple count => fails (.ambiguous target count)

end Plan

namespace Sync

variable {α β : Type} {s t : Session} {simulate : Bool}

-- The run makes the planned writes and comes to the planned result, unless a call that fails stops
-- it after some of the writes.
structure Performs (act : Sync α) (s : Session) (simulate : Bool) (plan : Plan α) : Prop where
  beside : s.OnlyStore (act s).2
  ran : ((act s).1 = plan.result ∧ (act s).2.store = s.store.written simulate plan.writes) ∨
    ¬ s.Calm ∧ (∃ e, (act s).1 = .error (.store e)) ∧
      ∃ part, part <+: plan.writes ∧ (act s).2.store = s.store.written simulate part

namespace Performs

variable {act : Sync α} {plan : Plan α}

theorem of_calm (performs : Performs act s simulate plan) (calm : s.Calm) :
    (act s).1 = plan.result ∧ (act s).2.store = s.store.written simulate plan.writes :=
  performs.ran.resolve_right fun stopped => stopped.1 calm

theorem congr {other : Sync α} (same : act s = other s) (performs : Performs other s simulate plan) :
    Performs act s simulate plan := by
  refine ⟨?_, ?_⟩ <;> rw [same]
  · exact performs.beside
  · exact performs.ran

theorem result_eq (performs : Performs act s simulate plan)
    (answered : ∀ e, (act s).1 ≠ .error (.store e)) : (act s).1 = plan.result := by
  rcases performs.ran with ⟨result, _⟩ | ⟨_, ⟨e, stopped⟩, _⟩
  · exact result
  · exact absurd stopped (answered e)

theorem of_ok (performs : Performs act s simulate plan) {a : α} (run : act s = (.ok a, t)) :
    plan.result = .ok a ∧ t.store = s.store.written simulate plan.writes := by
  have ran := performs.ran
  rw [run] at ran
  rcases ran with ⟨result, store⟩ | ⟨_, ⟨_, failed⟩, _⟩
  · exact ⟨result.symm, store⟩
  · cases failed

theorem exists_prefix (performs : Performs act s simulate plan) :
    ∃ part, part <+: plan.writes ∧ (act s).2.store = s.store.written simulate part := by
  rcases performs.ran with ⟨_, store⟩ | ⟨_, _, stopped⟩
  · exact ⟨plan.writes, List.prefix_rfl, store⟩
  · exact stopped

theorem bind {x : Sync α} {f : α → Sync β} {p : Plan α} {next : α → Plan β}
    (first : Performs x s simulate p)
    (rest : ∀ a u, x s = (.ok a, u) → p.result = .ok a →
      u.store = s.store.written simulate p.writes → Performs (f a) u simulate (next a)) :
    Performs (x >>= f) s simulate (p.andThen next) := by
  obtain ⟨beside, ran⟩ := first
  rcases run : x s with ⟨e | a, u⟩ <;> rw [run] at beside ran
  · -- The first part stops the whole, by its own result or by a call that fails.
    have stops : (x >>= f) s = (.error e, u) := bind_of_error run
    refine ⟨by rw [stops]; exact beside, ?_⟩
    rw [stops]
    rcases ran with ⟨result, store⟩ | ⟨fails, failed, part, before, store⟩
    · rw [Plan.andThen_of_error result.symm]
      exact Or.inl ⟨rfl, store⟩
    · refine Or.inr ⟨fails, ?_, part, ?_, store⟩
      · obtain ⟨fault, failed⟩ := failed
        cases failed
        exact ⟨fault, rfl⟩
      · unfold Plan.andThen
        split
        · exact before.trans (List.prefix_append _ _)
        · exact before
  · have goes : (x >>= f) s = f a u := bind_of_ok run
    rcases ran with ⟨result, store⟩ | ⟨_, ⟨_, failed⟩, _⟩
    · obtain ⟨later, ran⟩ := rest a u run result.symm store
      refine ⟨by rw [goes]; exact beside.trans later, ?_⟩
      rw [goes, Plan.andThen_of_ok result.symm]
      rcases ran with ⟨result, after⟩ | ⟨fails, failed, part, before, after⟩
      · exact Or.inl ⟨result, by rw [after, store, Store.written_append]⟩
      · refine Or.inr ⟨fun calm => fails (beside.calm calm), failed, p.writes ++ part, ?_, ?_⟩
        · exact (List.prefix_append_right_inj _).2 before
        · rw [after, store, Store.written_append]
    · cases failed

theorem pure (a : α) : Performs (Pure.pure a : Sync α) s simulate (.done a) :=
  ⟨⟨rfl, rfl⟩, Or.inl ⟨rfl, rfl⟩⟩

theorem returning {p : Plan α} {x : Sync α} (first : Performs x s simulate p) (g : α → β) :
    Performs (x >>= fun a => Pure.pure (g a)) s simulate ⟨p.writes, p.result.map g⟩ := by
  have performs := first.bind fun a u _ _ _ => .pure (g a)
  cases result : p.result with
  | ok a =>
    rw [Plan.andThen_of_ok result] at performs
    simpa only [Plan.done, List.append_nil, Except.map] using performs
  | error e =>
    rw [Plan.andThen_of_error result] at performs
    exact performs

theorem storeCall {call : StoreCall} {f : Unit → Sync α}
    (rest : Performs (f ()) (s.logged (.store call)) simulate plan) :
    Performs (storeCall call >>= f) s simulate plan := by
  cases fault : s.faults.store s.calls.length call with
  | some e =>
    have stops := storeCall_of_some (f := f) fault
    refine ⟨by rw [stops]; exact ⟨rfl, rfl⟩, Or.inr ⟨fun calm => ?_, ?_, [], List.nil_prefix, ?_⟩⟩
    · cases (calm _ call).symm.trans fault
    · rw [stops]
      exact ⟨e, rfl⟩
    · rw [stops]
      rfl
  | none =>
    have goes := storeCall_of_none (f := f) fault
    refine ⟨by rw [goes]; exact ⟨rest.beside.endpoint, rest.beside.faults⟩, ?_⟩
    rw [goes]
    exact rest.ran

theorem call {call : StoreCall} {f : Unit → Sync α}
    (answer : f () (s.logged (.store call)) = (plan.result,
      { s.logged (.store call) with store := s.store.written simulate plan.writes })) :
    Performs (Sync.storeCall call >>= f) s simulate plan := by
  apply storeCall
  refine ⟨?_, Or.inl ?_⟩ <;> rw [answer]
  · exact ⟨rfl, rfl⟩
  · exact ⟨rfl, rfl⟩

theorem lookupObject (collection : String) (filter : Filter) (includeData : Bool) :
    Performs (Sync.lookupObject collection filter includeData) s simulate
      (.done (s.store.lookup collection filter)) :=
  call rfl

theorem relationsFrom (source : ObjectId) :
    Performs (Sync.relationsFrom source) s simulate (.done (s.store.relationsFrom source)) :=
  call rfl

theorem createObject (collection : String) (data : Record) (seed : StatusSeed) :
    Performs (Sync.createObject collection data simulate seed) s simulate
      (.write (.createObject collection data seed) ⟨s.store.nextObject⟩) :=
  call rfl

theorem changeObject {id : ObjectId} {data : Record} {seed : StatusSeed} {store : Store}
    (changed : s.store.change id data simulate (some seed) = .ok store) :
    Performs (Sync.changeObject id data simulate seed) s simulate
      (.write (.changeObject id data seed) ()) := by
  apply call
  have applied : s.store.apply simulate (.changeObject id data seed) = store := by
    simp only [Store.apply, changed]
  simp only [get_bind, Session.logged_store, changed, Plan.write, Store.written_cons,
    Store.written_nil, applied]
  rfl

theorem deleteObject (id : ObjectId) :
    Performs (Sync.deleteObject id simulate) s simulate (.write (.deleteObject id) ()) :=
  call rfl

theorem createRelation (source target : ObjectId) (name : String) :
    Performs (Sync.createRelation source target name simulate) s simulate
      (.write (.createRelation source target name) ⟨s.store.nextRelation⟩) :=
  call rfl

theorem updateRelation (id : RelationId) (target : ObjectId) :
    Performs (Sync.updateRelation id target simulate) s simulate
      (.write (.updateRelation id target) ()) :=
  call rfl

theorem deleteRelation (id : RelationId) :
    Performs (Sync.deleteRelation id simulate) s simulate (.write (.deleteRelation id) ()) :=
  call rfl

theorem only (target : SearchTarget) (found : Lookup α) :
    Performs (Sync.only target found) s simulate (.only target found) := by
  cases found <;> exact ⟨⟨rfl, rfl⟩, Or.inl ⟨rfl, rfl⟩⟩

end Performs

end Sync

end RecordSync
