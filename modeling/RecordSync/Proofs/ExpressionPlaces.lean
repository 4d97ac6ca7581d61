import RecordSync.Command.Validate
import RecordSync.Proofs.Conformance

set_option autoImplicit false

namespace RecordSync

-- The condition of a workflow, or a source of the definition that lies `depth` unwindings below the
-- attribute at a position.
inductive Place where
  | condition
  | source (position depth index : Nat)

namespace Place

def Before : Place → Place → Prop
  | .condition, .source _ _ _ => True
  | .source a n i, .source b m j => a < b ∨ a = b ∧ (n < m ∨ n = m ∧ i < j)
  | _, .condition => False

theorem Before.asymm {p q : Place} (before : p.Before q) : ¬q.Before p := by
  cases p <;> cases q <;> simp_all only [Before, not_false_iff]
  omega

def unwindings (depth : Nat) : String :=
  String.join (List.replicate depth ".unwind")

theorem unwindings_zero : unwindings 0 = "" := rfl

theorem unwindings_succ (depth : Nat) : unwindings (depth + 1) = unwindings depth ++ ".unwind" := by
  simp [unwindings, List.replicate_succ', String.join_append]

def location (names : List String) : Place → String
  | .condition => "condition"
  | .source position depth _ =>
    let name := (names[position]?).getD ""
    s!"attribute '{name}{unwindings depth}'"

theorem location_source {names : List String} {position : Nat} {name : String}
    (known : names[position]? = some name) (depth index : Nat) :
    (source position depth index).location names = s!"attribute '{name ++ unwindings depth}'" := by
  simp [location, known, toString, String.append_assoc]

end Place

namespace Source

def code? : Source → Option String
  | .expression code => some code
  | .literal _ | .path _ => none

def placed (position depth : Nat) (sources : List Source) : List (Place × String) :=
  sources.zipIdx.filterMap fun (source, index) =>
    source.code?.map (Place.source position depth index, ·)

end Source

namespace AttributeDefinition

def descend : Nat → AttributeDefinition → Option AttributeDefinition
  | 0, d => some d
  | depth + 1, d => d.unwind.bind (descend depth)

def codeAt? (d : AttributeDefinition) (depth index : Nat) : Option String := do
  let inner ← d.descend depth
  let source ← inner.sources[index]?
  source.code?

def placed (position depth : Nat) : AttributeDefinition → List (Place × String)
  | ⟨_, sources, _, _, _, _, _, unwind, _⟩ =>
    Source.placed position depth sources ++
      match unwind with
      | some nested => nested.placed position (depth + 1)
      | none => []

end AttributeDefinition

namespace Workflow

def codeAt? (w : Workflow) : Place → Option String
  | .condition => w.condition
  | .source position depth index =>
    (w.mapper.definitions[position]?).bind fun d => d.codeAt? depth index

def placed (w : Workflow) : List (Place × String) :=
  (w.condition.toList.map (Place.condition, ·)) ++
    w.mapper.definitions.zipIdx.flatMap fun (d, position) => d.placed position 0

end Workflow

theorem List.pairwise_zipIdx {α : Type} (xs : List α) :
    xs.zipIdx.Pairwise fun x y => x.2 < y.2 := by
  rw [← List.pairwise_map, List.zipIdx_map_snd]
  exact List.pairwise_lt_range'

-- In an ordered list the first answer is that of the element which none with an answer comes before.
theorem List.findSome?_eq_some_iff_of_pairwise {α β : Type} {before : α → α → Prop}
    {f : α → Option β} (asymm : ∀ x y, before x y → ¬before y x) {xs : List α}
    (ordered : xs.Pairwise before) {b : β} :
    xs.findSome? f = some b ↔ ∃ x ∈ xs, f x = some b ∧ ∀ y ∈ xs, before y x → f y = none := by
  induction ordered with
  | nil => simp
  | @cons z zs first _ ih =>
    cases answer : f z with
    | some c =>
      rw [List.findSome?_cons_of_isSome (by simp [answer]), answer]
      constructor
      · rintro ⟨⟩
        refine ⟨z, List.mem_cons_self, answer, fun y member earlier => ?_⟩
        rcases List.mem_cons.1 member with rfl | later
        · exact absurd earlier (asymm _ _ earlier)
        · exact absurd earlier (asymm _ _ (first y later))
      · rintro ⟨x, member, found, none⟩
        rcases List.mem_cons.1 member with rfl | later
        · exact answer.symm.trans found
        · simp [none z List.mem_cons_self (first x later)] at answer
    | none =>
      rw [List.findSome?_cons_of_isNone (by simp [answer]), ih]
      grind

namespace AttributeDefinition

variable {d : AttributeDefinition} {position depth : Nat} {p : Place} {code : String}

theorem codeAt?_succ (d : AttributeDefinition) (depth index : Nat) :
    d.codeAt? (depth + 1) index = d.unwind.bind fun nested => nested.codeAt? depth index := by
  unfold codeAt?
  cases unwind : d.unwind with
  | none => simp [descend, unwind]
  | some nested => simp [descend, unwind]

theorem placed_eq (d : AttributeDefinition) : d.placed position depth =
    Source.placed position depth d.sources ++
      (d.unwind.map fun nested => nested.placed position (depth + 1)).getD [] := by
  obtain ⟨name, sources, kind, ensure, required, rewrite, require, unwind, relation⟩ := d
  cases unwind <;> rfl

theorem mem_sources_placed {sources : List Source} :
    (p, code) ∈ Source.placed position depth sources ↔
      ∃ index, p = .source position depth index ∧
        (sources[index]?).bind Source.code? = some code := by
  simp only [Source.placed, List.mem_filterMap, Prod.exists, List.mk_mem_zipIdx_iff_getElem?,
    Option.map_eq_some_iff, Prod.mk.injEq, Option.bind_eq_some_iff]
  grind

theorem mem_placed : (p, code) ∈ d.placed position depth ↔
    ∃ below index, p = .source position (depth + below) index ∧
      d.codeAt? below index = some code := by
  induction d using induction generalizing depth with
  | step d ih =>
    rw [placed_eq, List.mem_append, mem_sources_placed]
    constructor
    · rintro (⟨index, same, there⟩ | later)
      · exact ⟨0, index, same, there⟩
      · cases unwind : d.unwind with
        | none => simp [unwind] at later
        | some nested =>
          rw [unwind] at later
          obtain ⟨below, index, same, there⟩ := (ih nested unwind).1 later
          refine ⟨below + 1, index, ?_, ?_⟩
          · rw [same]
            congr 1
            omega
          · rw [codeAt?_succ, unwind]
            exact there
    · rintro ⟨_ | below, index, same, there⟩
      · exact Or.inl ⟨index, same, there⟩
      · rw [codeAt?_succ] at there
        obtain ⟨nested, unwind, there⟩ := Option.bind_eq_some_iff.1 there
        right
        rw [unwind]
        refine (ih nested unwind).2 ⟨below, index, ?_, there⟩
        rw [same]
        congr 1
        omega

theorem pairwise_sources_placed (sources : List Source) :
    (Source.placed position depth sources).Pairwise fun x y => x.1.Before y.1 := by
  rw [Source.placed, List.pairwise_filterMap]
  apply (List.pairwise_zipIdx sources).imp
  rintro ⟨_, i⟩ ⟨_, j⟩ earlier x first y second
  obtain ⟨_, _, rfl⟩ := Option.map_eq_some_iff.1 first
  obtain ⟨_, _, rfl⟩ := Option.map_eq_some_iff.1 second
  simpa [Place.Before] using earlier

theorem pairwise_placed (d : AttributeDefinition) :
    (d.placed position depth).Pairwise fun x y => x.1.Before y.1 := by
  induction d using induction generalizing depth with
  | step d ih =>
    rw [placed_eq, List.pairwise_append]
    refine ⟨pairwise_sources_placed d.sources, ?_, ?_⟩
    · cases unwind : d.unwind with
      | none => simp
      | some nested => exact ih nested unwind
    · -- What is unwound lies deeper.
      rintro ⟨_, own⟩ first ⟨_, inner⟩ second
      cases unwind : d.unwind with
      | none => simp [unwind] at second
      | some nested =>
        rw [unwind] at second
        obtain ⟨i, rfl, _⟩ := mem_sources_placed.1 first
        obtain ⟨below, j, rfl, _⟩ := mem_placed.1 second
        exact Or.inr ⟨rfl, Or.inl (by omega)⟩

theorem expressions_unfold (d : AttributeDefinition) (location : String) :
    d.expressions location =
      (d.sources.filterMap fun source => source.code?.map (Located.mk s!"attribute '{location}'")) ++
        (d.unwind.map fun nested => nested.expressions s!"{location}.unwind").getD [] := by
  obtain ⟨name, sources, kind, ensure, required, rewrite, require, unwind, relation⟩ := d
  have own : (fun source : Source => source.code?.map (Located.mk s!"attribute '{location}'")) =
      fun source => match source with
        | .expression code => some (Located.mk s!"attribute '{location}'" code)
        | .literal _ | .path _ => none := by
    funext source
    cases source <;> rfl
  dsimp only
  rw [own]
  cases unwind <;> rfl

theorem told_sources {names : List String} {name : String} (known : names[position]? = some name)
    (sources : List Source) :
    (Source.placed position depth sources).map (fun (p, code) => ⟨p.location names, code⟩) =
      sources.filterMap fun source => source.code?.map
        (Located.mk s!"attribute '{name ++ Place.unwindings depth}'") := by
  calc (Source.placed position depth sources).map (fun (p, code) => ⟨p.location names, code⟩)
    _ = sources.zipIdx.filterMap ((fun source => source.code?.map
          (Located.mk s!"attribute '{name ++ Place.unwindings depth}'")) ∘ Prod.fst) := by
      simp only [Source.placed, List.map_filterMap, Option.map_map, Function.comp_def,
        Place.location_source known]
    _ = _ := by rw [← List.filterMap_map, List.zipIdx_map_fst]

theorem expressions_eq {names : List String} {name : String} (known : names[position]? = some name)
    (d : AttributeDefinition) (depth : Nat) :
    d.expressions (name ++ Place.unwindings depth) =
      (d.placed position depth).map fun (p, code) => ⟨p.location names, code⟩ := by
  induction d using induction generalizing depth with
  | step d ih =>
    rw [expressions_unfold, placed_eq, List.map_append, told_sources known]
    cases unwind : d.unwind with
    | none => rfl
    | some nested =>
      have deeper : name ++ Place.unwindings (depth + 1) =
          s!"{name ++ Place.unwindings depth}.unwind" := by
        simp [Place.unwindings_succ, toString, String.append_assoc]
      simp only [Option.map_some, Option.getD_some, ← deeper, ih nested unwind]

end AttributeDefinition

namespace Workflow

variable {w : Workflow} {p : Place} {code : String}

theorem mem_placed : (p, code) ∈ w.placed ↔ w.codeAt? p = some code := by
  cases p with
  | condition =>
    simp [placed, codeAt?, AttributeDefinition.mem_placed]
  | source position depth index =>
    simp [placed, codeAt?, AttributeDefinition.mem_placed, List.mk_mem_zipIdx_iff_getElem?,
      Option.bind_eq_some_iff]

theorem pairwise_placed (w : Workflow) : w.placed.Pairwise fun x y => x.1.Before y.1 := by
  rw [placed, List.pairwise_append, List.pairwise_flatMap]
  refine ⟨?_, ⟨fun entry _ => entry.1.pairwise_placed, ?_⟩, ?_⟩
  · cases w.condition <;> simp
  · apply (List.pairwise_zipIdx w.mapper.definitions).imp
    rintro ⟨d, i⟩ ⟨e, j⟩ earlier ⟨_, _⟩ first ⟨_, _⟩ second
    obtain ⟨_, _, rfl, _⟩ := AttributeDefinition.mem_placed.1 first
    obtain ⟨_, _, rfl, _⟩ := AttributeDefinition.mem_placed.1 second
    exact Or.inl earlier
  · rintro ⟨_, _⟩ first ⟨_, _⟩ second
    obtain ⟨_, _, same⟩ := List.mem_map.1 first
    obtain ⟨_, _, there⟩ := List.mem_flatMap.1 second
    obtain ⟨_, _, rfl, _⟩ := AttributeDefinition.mem_placed.1 there
    obtain ⟨rfl, _⟩ := Prod.mk.inj same
    trivial

theorem expressions_eq (w : Workflow) :
    w.expressions = w.placed.map fun (p, code) => ⟨p.location w.mapper.names, code⟩ := by
  have told (d : AttributeDefinition) (position : Nat)
      (member : (d, position) ∈ w.mapper.definitions.zipIdx) : d.expressions d.name =
        (d.placed position 0).map fun (p, code) => ⟨p.location w.mapper.names, code⟩ := by
    rw [List.mk_mem_zipIdx_iff_getElem?] at member
    have known : w.mapper.names[position]? = some d.name := by simp [Mapper.names, member]
    have whole := AttributeDefinition.expressions_eq known d 0
    rwa [Place.unwindings_zero, String.append_empty] at whole
  have indexed : w.mapper.definitions.flatMap (fun d => d.expressions d.name) =
      w.mapper.definitions.zipIdx.flatMap fun (d, _) => d.expressions d.name := by
    conv => lhs; rw [← List.zipIdx_map_fst 0 w.mapper.definitions]
    rw [List.flatMap_map]
  rw [expressions, indexed, placed, List.map_append, List.map_flatMap]
  congr 1
  · simp [Place.location]
  · exact List.flatMap_congr fun (d, position) member => told d position member

-- What keeps the code at a place from compiling, if there is code and anything does.
def faultAt? (lib : Libraries) (w : Workflow) (p : Place) : Option String :=
  (w.codeAt? p).bind (lib.scriptFault? Limits.default)

def fault? (lib : Libraries) (entry : Place × String) : Option (Place × String) :=
  (lib.scriptFault? Limits.default entry.2).map fun message => (entry.1, message)

theorem fault?_of_mem {lib : Libraries} (member : (p, code) ∈ w.placed) :
    fault? lib (p, code) = (w.faultAt? lib p).map fun message => (p, message) := by
  rw [faultAt?, mem_placed.1 member]
  rfl

theorem faultAt?_eq_none_iff {lib : Libraries} : w.faultAt? lib p = none ↔
    ∀ code, (p, code) ∈ w.placed → fault? lib (p, code) = none := by
  constructor
  · intro none code member
    rw [fault?_of_mem member, none, Option.map_none]
  · intro none
    cases there : w.codeAt? p with
    | none => rw [faultAt?, there, Option.bind_none]
    | some code =>
      have member := mem_placed.2 there
      simpa [fault?_of_mem member] using none code member

theorem faultless_iff {lib : Libraries} : (∀ p, w.faultAt? lib p = none) ↔
    w.placed.findSome? (fault? lib) = none := by
  simp only [faultAt?_eq_none_iff, List.findSome?_eq_none_iff, Prod.forall]

theorem first_fault_iff {lib : Libraries} {message : String} :
    (w.faultAt? lib p = some message ∧ ∀ q, q.Before p → w.faultAt? lib q = none) ↔
      w.placed.findSome? (fault? lib) = some (p, message) := by
  rw [List.findSome?_eq_some_iff_of_pairwise (fun x y => Place.Before.asymm) w.pairwise_placed]
  constructor
  · rintro ⟨broken, earlier⟩
    obtain ⟨code, there, _⟩ := Option.bind_eq_some_iff.1 broken
    have member := mem_placed.2 there
    refine ⟨(p, code), member, by rw [fault?_of_mem member, broken, Option.map_some], ?_⟩
    exact fun (q, other) stands before => faultAt?_eq_none_iff.1 (earlier q before) other stands
  · rintro ⟨⟨q, code⟩, member, told, earlier⟩
    rw [fault?_of_mem member] at told
    obtain ⟨_, broken, same⟩ := Option.map_eq_some_iff.1 told
    cases same
    exact ⟨broken, fun r before => faultAt?_eq_none_iff.2 fun other stands =>
      earlier (r, other) stands before⟩

end Workflow

variable {lib : Libraries} {s : Surroundings} {file : String} {w : Workflow}

theorem validate_of_loaded (loaded : s.workflow lib file = .ok w) : validate lib s file =
    match w.placed.findSome? (Workflow.fault? lib) with
    | some (p, message) => .error (.expression (p.location w.mapper.names) message)
    | none => .ok (Validation.ofWorkflow w) := by
  have first : w.expressions.findSome? (fun e =>
      (lib.scriptFault? Limits.default e.code).map fun message => (e.location, message)) =
      (w.placed.findSome? (Workflow.fault? lib)).map
        fun (p, message) => (p.location w.mapper.names, message) := by
    rw [w.expressions_eq, List.findSome?_map, List.map_findSome?]
    congr 1
    funext entry
    simp [Workflow.fault?, Function.comp_def]
  unfold validate
  rw [loaded]
  dsimp only [bind, Except.bind]
  rw [first]
  cases w.placed.findSome? (Workflow.fault? lib) <;> rfl

theorem exists_places (w : Workflow) : ∃ places : List Place, places.Nodup ∧
    (∀ p, p ∈ places ↔ (w.codeAt? p).isSome) ∧
      (Validation.ofWorkflow w).expressions = places.length := by
  refine ⟨w.placed.map Prod.fst, ?_, ?_, ?_⟩
  · rw [List.Nodup, List.pairwise_map]
    refine w.pairwise_placed.imp fun {x y} before same => ?_
    exact Place.Before.asymm (same ▸ before) (same ▸ before)
  · simp [Option.isSome_iff_exists, Workflow.mem_placed]
  · simp [Validation.ofWorkflow, w.expressions_eq]

-- A workflow file is valid just when all code in it compiles, wherever it stands. Otherwise the first
-- place with code that does not is told. Each place with code is counted once.
theorem validation_overlooks_no_expression (loaded : s.workflow lib file = .ok w) :
    ((∃ report, validate lib s file = .ok report) ↔ ∀ p, w.faultAt? lib p = none) ∧
    (∀ e, validate lib s file = .error e ↔ ∃ p message, w.faultAt? lib p = some message ∧
      (∀ q, q.Before p → w.faultAt? lib q = none) ∧
      e = .expression (p.location w.mapper.names) message) ∧
    ∀ report, validate lib s file = .ok report → ∃ places : List Place, places.Nodup ∧
      (∀ p, p ∈ places ↔ (w.codeAt? p).isSome) ∧ report.expressions = places.length := by
  have told (e : CommandError) : (∃ p message, w.faultAt? lib p = some message ∧
      (∀ q, q.Before p → w.faultAt? lib q = none) ∧
      e = .expression (p.location w.mapper.names) message) ↔ ∃ p message,
        w.placed.findSome? (Workflow.fault? lib) = some (p, message) ∧
          .expression (p.location w.mapper.names) message = e := by
    simp only [← and_assoc, Workflow.first_fault_iff, @eq_comm _ e]
  simp only [validate_of_loaded loaded, Workflow.faultless_iff, told]
  cases w.placed.findSome? (Workflow.fault? lib) with
  | none => simpa using exists_places w
  | some entry =>
    obtain ⟨p, message⟩ := entry
    simp

-- Two expressions do not compile. The one for the elements of teams comes first, since it stands with
-- the attribute in front.
theorem validation_overlooks_no_expression_of_teams :
    let text := "name: w\ncollection: c\nendpoint: e\ncondition: on\nattributes:\n" ++
      "  teams: \x7bunwind: \x7bunwind: \x7bexpression: id +\x7d\x7d\x7d\n" ++
      "  login: \x7bexpression: id +\x7d\n"
    let login : Value := .object [("expression", .string "id +")]
    let attributes : Record :=
      [("teams", .object [("unwind", .object [("unwind", login)])]), ("login", login)]
    let lib := { Libraries.knowing text ⟨"w", "c", "e", .latest, some "on", [], attributes⟩ with
      scriptFault? := fun _ code => if code = "id +" then some "Script is incomplete" else none }
    let s : Surroundings := ⟨fun _ => .ok text, [], fun _ => .ofKeys⟩
    let place := "attribute 'teams.unwind.unwind'"
    ∃ w, s.workflow lib "w.yaml" = .ok w ∧
      validate lib s "w.yaml" = .error (.expression place "Script is incomplete") ∧
      ∃ p, w.faultAt? lib p = some "Script is incomplete" ∧
        (∀ q, q.Before p → w.faultAt? lib q = none) ∧ p.location w.mapper.names = place := by
  intro text login attributes lib s place
  have found : (s.workflow lib "w.yaml").toOption.map (fun w => w.expressions.findSome? fun e =>
      (lib.scriptFault? Limits.default e.code).map fun message => (e.location, message)) =
        some (some (place, "Script is incomplete")) := by decide +kernel
  cases loaded : s.workflow lib "w.yaml" with
  | error e => simp [loaded, Except.toOption] at found
  | ok w =>
    simp only [loaded, Except.toOption, Option.map_some, Option.some.injEq] at found
    have run : validate lib s "w.yaml" =
        .error (.expression place "Script is incomplete") := by
      unfold validate
      rw [loaded]
      dsimp only [bind, Except.bind]
      rw [found]
      rfl
    obtain ⟨p, message, broken, earlier, same⟩ :=
      ((validation_overlooks_no_expression loaded).2.1 _).1 run
    obtain ⟨told, rfl⟩ := CommandError.expression.inj same
    exact ⟨w, rfl, run, p, broken, earlier, told.symm⟩

end RecordSync
