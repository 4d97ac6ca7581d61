import RecordSync.Proofs.ImportTwice
import RecordSync.Proofs.ObjectWrites
import RecordSync.Proofs.Walks

set_option autoImplicit false

namespace RecordSync

namespace Path

-- None of the segments is empty, so the name can be read as a path.
def Addressable (name : String) : Prop := (segments? name).isSome

instance (name : String) : Decidable (Addressable name) := inferInstanceAs (Decidable (_ = true))

theorem Cursor.find_inside {fields : Record} {key : String} {segments : List String} {v : Value}
    (found : Keyed.get? (segments.foldl extend key) fields = some v) :
    (Cursor.inside fields key).find segments = some v := by
  -- A cursor prefers to go on with its key, so it comes to the longest one first.
  induction segments generalizing key with
  | nil => exact found
  | cons segment rest ih =>
    unfold find steps
    rw [List.findSome?_cons, ih found]

theorem getIn_of_get? {name : String} (addressable : Addressable name) {r : Record} {v : Value}
    (found : Keyed.get? name r = some v) : getIn r name = some v := by
  obtain ⟨parts, run⟩ := Option.isSome_iff_exists.1 addressable
  obtain ⟨first, rest, rfl, whole⟩ := segments?_eq_some run
  have inside : (Cursor.inside r first).find rest = some v := Cursor.find_inside (whole ▸ found)
  unfold getIn get
  rw [run]
  show [Cursor.inside r first].findSome? (Cursor.find rest) = some v
  rw [List.findSome?_cons, inside]

theorem getIn_of_not_addressable {name : String} (stray : ¬ Addressable name) (r : Record) :
    getIn r name = none := by
  unfold getIn get
  rw [Option.not_isSome_iff_eq_none.1 stray]
  rfl

end Path

namespace Workflow

variable {w : Workflow} {evaluate : Evaluator} {collection : String} {record mapped key : Record}
  {names : List String} {time : Timestamp} {s t : Session}

theorem accepts_of_addressable (drawn : Drawn mapped names key) (keyed : Record.WellKeyed mapped)
    (addressable : ∀ name ∈ names, Path.Addressable name) :
    (Filter.ofRecord key).accepts mapped = true := by
  rw [Filter.accepts_ofRecord]
  rintro ⟨name, v⟩ member
  have held := drawn.2 name v member
  have listed := (drawn.1 name).1 (Keyed.mem_keys_of_mem member)
  rw [Filter.accepts, Path.getIn_of_get? (addressable name listed) held]
  exact Filter.meets_self (keyed.get? held)

-- One identifier that no path goes to is enough for a search to come to nothing.
theorem lookup_of_not_addressable (drawn : Drawn mapped names key) {name : String}
    (listed : name ∈ names) (stray : ¬ Path.Addressable name) (store : Store) :
    store.lookup collection (Filter.ofRecord key) = .notFound := by
  obtain ⟨⟨_, v⟩, member, rfl⟩ := List.mem_map.1 ((drawn.1 name).2 listed)
  apply Store.lookup_eq_notFound_iff.2
  refine List.filter_eq_nil_iff.2 fun o _ answers => ?_
  simp only [ObjectContent.answers, Bool.and_eq_true] at answers
  have accepted := (Filter.accepts_ofRecord key o.data).1 answers.2 _ member
  rw [Filter.accepts, Path.getIn_of_not_addressable stray] at accepted
  cases accepted

theorem created_of_missing (asks : Asks w evaluate record mapped key s) (calm : s.Calm)
    (missing : s.store.lookup collection (keyFilter key) = .notFound)
    (creates : w.ensure.step (none : Option CanonicalObject) = .create) :
    (w.importRecord evaluate collection record time false s).1 = .ok .created ∨
      ∃ name link count, (w.importRecord evaluate collection record time false s).1 =
        .error (.ambiguous (.relation name link) count) := by
  have result := ((performs_import asks collection time false).of_calm calm).1
  rw [planSettle_of_notFound missing] at result
  unfold planPlace at result
  rw [creates] at result
  rw [result]
  cases edges : (Relations.plan w.mapper ⟨s.store.nextObject⟩ mapped
    (s.store.apply false (w.creation collection mapped time))).result with
  | ok changes => exact Or.inl (congrArg (Except.map _) edges)
  | error e =>
    obtain ⟨_, d, _, _, ⟨link, count, rfl⟩, _⟩ := Relations.planAll_eq_error edges
    exact Or.inr ⟨d.name, link, count, congrArg (Except.map _) edges⟩

-- An import that comes after one which created the object of its record does not create another, if
-- paths go to all of the identifiers. Where they do not, it creates one again, whatever the store
-- holds by then, unless a link is ambiguous.
theorem created_found_again {spec : WorkflowSpec} {w : Workflow} {evaluate : Evaluator}
    {collection : String} {record : Record} {time : Timestamp} {s t : Session}
    {compile : Pattern.Compiler} (accepted : ofSpec compile spec = .ok w)
    (specKeyed : Record.WellKeyed spec.attributes)
    (evaluateKeyed : evaluate.WellKeyed) (recordKeyed : Record.WellKeyed record)
    (created : w.importRecord evaluate collection record time false s = (.ok .created, t))
    (later : Timestamp) :
    ((∀ name ∈ w.identifiers, Path.Addressable name) → ∀ u, u.store = t.store →
      (w.importRecord evaluate collection record later false u).1 ≠ .ok .created) ∧
    ((∃ name ∈ w.identifiers, ¬ Path.Addressable name) → ∀ u, u.Calm →
      u.endpoint.name = w.endpoint →
      (w.importRecord evaluate collection record later false u).1 = .ok .created ∨
        ∃ name link count, (w.importRecord evaluate collection record later false u).1 =
          .error (.ambiguous (.relation name link) count)) := by
  obtain ⟨mapped, key, asks⟩ := exists_asks (congrArg Prod.fst created) nofun
  obtain ⟨creates, missing, same⟩ := created_cases asks created
  have drawn := drawn_collect (drawn_identity asks.key)
  refine ⟨fun addressable u stored ended => ?_, ?_⟩
  · have mappedKeyed := Mapper.wellKeyed_map evaluateKeyed (wellKeyed_ofSpec specKeyed accepted)
      recordKeyed asks.mapping
    -- The second import maps the record to the same values, and so it searches by the same key.
    obtain ⟨mapped, key, again⟩ := exists_asks ended nofun
    cases asks.mapping.symm.trans again.mapping
    cases asks.key.symm.trans again.key
    obtain ⟨_, missed, _⟩ := created_cases again (Prod.ext ended rfl)
    have contents : t.store.contents =
        s.store.contents ++ [⟨⟨s.store.nextObject⟩, collection, mapped⟩] := by
      rw [← Store.contents_create, Store.contents, same.objects]
      rfl
    have accepts : (keyFilter key).accepts mapped = true :=
      accepts_of_addressable drawn mappedKeyed addressable
    have found := matching_of_appended contents (Store.lookup_eq_notFound_iff.1 missing)
      (by simp [ObjectContent.answers, accepts])
    rw [stored, Store.lookup_eq_notFound_iff] at missed
    cases missed.symm.trans found
  · rintro ⟨name, listed, stray⟩ u calm bound
    exact created_of_missing { asks with bound := bound } calm
      (lookup_of_not_addressable drawn listed stray _) creates

theorem created_found_again_by_dotted_name :
    let evaluate : Evaluator := fun _ _ => .ok .null
    let ann : Record := [("uid", .string "ann")]
    let s : Session := ⟨.empty, .named "ldap", [], .never⟩
    let w := logins "posix.login" "uid"
    ∃ t, ofSpec (Pattern.among []) (loginsSpec "posix.login" "uid") = .ok w ∧
      w.importRecord evaluate "people" ann ⟨1, 0⟩ false s = (.ok .created, t) ∧
      (w.importRecord evaluate "people" ann ⟨2, 0⟩ false t).1 ≠ .ok .created := by
  intro evaluate ann s w
  have accepted : ofSpec (Pattern.among []) (loginsSpec "posix.login" "uid") = .ok w := by
    rfl
  have mapping : w.mapper.map evaluate ann = .ok [("posix.login", .string "ann")] := by
    simp [w, logins, ann, Mapper.map, Mapper.mapAll, AttributeDefinition.resolve]
    rfl
  have asks : Asks w evaluate ann _ [("posix.login", .string "ann")] s :=
    ⟨rfl, rfl, mapping, rfl, rfl⟩
  have created : ∃ t, w.importRecord evaluate "people" ann ⟨1, 0⟩ false s =
      (.ok .created, t) := by
    rw [importRecord_of_asks asks]
    exact ⟨_, rfl⟩
  obtain ⟨t, created⟩ := created
  have specKeyed : Record.WellKeyed (loginsSpec "posix.login" "uid").attributes := by
    simp [loginsSpec, Record.WellKeyed, Value.WellKeyed, Value.WellKeyedFields,
      Keyed.distinct_cons]
  have recordKeyed : Record.WellKeyed ann := by
    simp [ann, Record.wellKeyed_iff, Keyed.distinct_cons]
  have evaluateKeyed : evaluate.WellKeyed := by
    rintro code context v _ ⟨⟩
    exact Value.wellKeyed_null
  have addressable : ∀ name ∈ w.identifiers, Path.Addressable name := by
    decide
  have again := created_found_again accepted specKeyed evaluateKeyed recordKeyed created ⟨2, 0⟩
  exact ⟨t, accepted, created, again.1 addressable t rfl⟩

-- A name that ends in a dot is accepted, and nothing is found by it.
theorem created_twice_by_trailing_dot :
    let evaluate : Evaluator := fun _ _ => .ok .null
    let w := logins "login." "uid"
    let imported (time : Timestamp) (s : Session) :=
      w.importRecord evaluate "people" [("uid", .string "ann")] time false s
    let first := imported ⟨1, 0⟩ ⟨.empty, .named "ldap", [], .never⟩
    let second := imported ⟨2, 0⟩ first.2
    ofSpec (Pattern.among []) (loginsSpec "login." "uid") = .ok w ∧
      first.1.mapError WorkflowError.isRetryable = .ok .created ∧
      second.1.mapError WorkflowError.isRetryable = .ok .created ∧
      second.2.store.objects.length = 2 := by
  refine ⟨rfl, ?_⟩
  decide +kernel

end Workflow

end RecordSync
