import Mathlib.Data.List.Forall2
import RecordSync.Proofs.Conformance

set_option autoImplicit false

namespace RecordSync

namespace Except

variable {ε α β : Type}

theorem exists_bind_iff {x : Except ε α} {f : α → Except ε β} :
    (∃ b, (x >>= f) = .ok b) ↔ ∃ a, x = .ok a ∧ ∃ b, f a = .ok b := by
  constructor
  · rintro ⟨b, run⟩
    obtain ⟨a, first, run⟩ := bind_eq_ok run
    exact ⟨a, first, b, run⟩
  · rintro ⟨a, rfl, b, run⟩
    exact ⟨b, run⟩

theorem mapM_eq_ok_iff {f : α → Except ε β} {xs : List α} {ys : List β} :
    xs.mapM f = .ok ys ↔ List.Forall₂ (fun x y => f x = .ok y) xs ys := by
  induction xs generalizing ys with
  | nil => cases ys <;> simp [pure, Except.pure]
  | cons x xs ih =>
    rw [List.mapM_cons]
    constructor
    · intro run
      obtain ⟨y, first, run⟩ := bind_eq_ok run
      obtain ⟨rest, later, run⟩ := bind_eq_ok run
      cases run
      exact .cons first (ih.1 later)
    · rintro (_ | ⟨first, later⟩)
      rw [first, ih.2 later]
      rfl

theorem exists_mapM_iff {f : α → Except ε β} {xs : List α} :
    (∃ ys, xs.mapM f = .ok ys) ↔ ∀ x ∈ xs, ∃ y, f x = .ok y := by
  induction xs with
  | nil => simp [pure, Except.pure]
  | cons x xs ih =>
    simp only [mapM_eq_ok_iff] at ih ⊢
    simp [← ih, List.forall₂_cons_left_iff]

end Except

def Pattern.Compiles (compile : Pattern.Compiler) (text : String) : Prop :=
  ∃ p, compile text = .ok p

structure RewriteSpec.Valid (compile : Pattern.Compiler) (rule : RewriteSpec) : Prop where
  wanted : rule.wanted ≠ .null
  replacement : rule.replacement ≠ .null
  texts : rule.regex = true → ∃ text replacement,
    rule.wanted = .string text ∧ rule.replacement = .string replacement ∧
      Pattern.Compiles compile text

namespace AttributeSpec

def outputName (spec : AttributeSpec) (key : String) : String :=
  spec.rename.getD key

def literal? (spec : AttributeSpec) : Option Value :=
  if spec.literal.isNull then none else some spec.literal

inductive Valid (compile : Pattern.Compiler) : AttributeSpec → String → Prop
  | intro {spec : AttributeSpec} {key : String} (name : spec.outputName key ≠ "")
    (merges : spec.ensure = .merge → spec.kind = .array)
    (path : ∀ path, spec.path = some path → [] ∉ Text.cut '.' path.toList)
    (require : ∀ text, spec.require = some text → Pattern.Compiles compile text)
    (rules : ∀ rule ∈ spec.rewrite, rule.Valid compile)
    -- A nested declaration has the name of the one around it for its key.
    (nested : ∀ inner, spec.unwind = some inner → inner.Valid compile (spec.outputName key)) :
    spec.Valid compile key

theorem induction {motive : AttributeSpec → Prop}
    (step : ∀ spec : AttributeSpec,
      (∀ inner, spec.unwind = some inner → motive inner) → motive spec)
    (spec : AttributeSpec) : motive spec := by
  refine @AttributeSpec.rec motive
    (fun unwind => ∀ inner, unwind = some inner → motive inner) ?_ ?_ ?_ spec
  · intro path literal expression kind ensure required rename rewrite require unwind relation nested
    exact step _ nested
  · exact fun _ none => nomatch none
  · rintro inner holds _ ⟨⟩
    exact holds

end AttributeSpec

-- A definition takes over what is declared, and so do the definitions of elements below it.
inductive AttributeDefinition.Follows : AttributeDefinition → String → AttributeSpec → Prop
  | intro {d : AttributeDefinition} {key : String} {spec : AttributeSpec}
    (name : d.name = spec.outputName key) (kind : d.kind = spec.kind)
    (ensure : d.ensure = spec.ensure) (required : d.required = spec.required)
    (relation : d.relation = spec.relation)
    (sources : d.sources = spec.literal?.toList.map .literal ++ spec.path.toList.map .path ++
      spec.expression.toList.map .expression)
    (unwinds : d.unwind.isSome = spec.unwind.isSome)
    (nested : ∀ e inner, d.unwind = some e → spec.unwind = some inner → e.Follows d.name inner) :
    Follows d key spec

structure WorkflowSpec.Valid (compile : Pattern.Compiler) (spec : WorkflowSpec)
    (declared : Keyed AttributeSpec) : Prop where
  name : Text.isBlankText spec.name = false
  collection : Text.isBlankText spec.collection = false
  endpoint : Text.isBlankText spec.endpoint = false
  ensure : spec.ensure ≠ .merge
  distinct : (declared.map fun entry => entry.2.outputName entry.1).Nodup
  identifiers : ∀ i ∈ spec.identifiers,
    ∃ entry ∈ declared, entry.2.outputName entry.1 = i ∧ entry.2.ensure ≠ .absent
  attributes : ∀ entry ∈ declared, entry.2.Valid compile entry.1

theorem Value.isNull_iff (v : Value) : v.isNull = true ↔ v = .null := by
  cases v <;> simp [isNull]

theorem Path.exists_segments_iff {path : String} :
    (∃ parts, segments path = .ok parts) ↔ [] ∉ Text.cut '.' path.toList := by
  unfold segments segments?
  by_cases hollow : [] ∈ Text.cut '.' path.toList <;> simp [hollow]

namespace RewriteRule

variable {compile : Pattern.Compiler} {name : String} {index : Nat}

theorem exists_ofSpec_iff {rule : RewriteSpec} :
    (∃ r, ofSpec compile name index rule = .ok r) ↔ rule.Valid compile := by
  obtain ⟨wanted, replacement, regex⟩ := rule
  constructor
  · rintro ⟨r, run⟩
    unfold ofSpec at run
    split at run
    · cases run
    · rename_i given
      simp only [Bool.or_eq_true, not_or, Value.isNull_iff] at given
      refine ⟨given.1, given.2, ?_⟩
      rintro rfl
      simp only [Bool.not_true, Bool.false_eq_true, if_false] at run
      split at run
      · split at run
        · exact ⟨_, _, rfl, rfl, _, ‹_›⟩
        · cases run
      · cases run
  · rintro ⟨matched, given, texts⟩
    dsimp only at matched given texts
    cases regex with
    | false => exact ⟨.whole wanted replacement, by simp [ofSpec, Value.isNull_iff, matched, given]⟩
    | true =>
      obtain ⟨text, new, rfl, rfl, pattern, compiles⟩ := texts rfl
      exact ⟨.regex pattern new, by simp [ofSpec, Value.isNull_iff, compiles]⟩

theorem exists_ofSpecs_iff {rules : List RewriteSpec} :
    (∃ rs, ofSpecs compile name index rules = .ok rs) ↔ ∀ rule ∈ rules, rule.Valid compile := by
  induction rules generalizing index with
  | nil => simp [ofSpecs]
  | cons rule rules ih =>
    unfold ofSpecs
    simp [Except.exists_bind_iff, ih, exists_ofSpec_iff, pure, Except.pure]

end RewriteRule

namespace AttributeDefinition

variable {compile : Pattern.Compiler} {name key : String} {spec : AttributeSpec}
  {d : AttributeDefinition}

theorem checkPath_eq_ok_iff {path : Option String} :
    checkPath name path = .ok () ↔ ∀ p, path = some p → [] ∉ Text.cut '.' p.toList := by
  cases path with
  | none => simp [checkPath]
  | some path =>
    simp only [← Path.exists_segments_iff]
    cases walks : Path.segments path <;> simp [checkPath, walks]

theorem exists_readRequire_iff {require : Option String} :
    (∃ pattern, readRequire compile name require = .ok pattern) ↔
      ∀ text, require = some text → Pattern.Compiles compile text := by
  cases require with
  | none => simp [readRequire]
  | some text => cases reads : compile text <;> simp [readRequire, Pattern.Compiles, reads]

theorem valid_of_ofSpec (run : ofSpec compile key spec = .ok d) : spec.Valid compile key := by
  -- A definition for elements is checked under the name found here, so the key changes on the way.
  induction spec using AttributeSpec.induction generalizing key d with
  | step spec ih =>
    have checked := checked_ofSpec run
    have name : d.name = spec.outputName key := checked.name
    refine .intro (name ▸ checked.name_ne) checked.merges_array
      (checkPath_eq_ok_iff.1 checked.path) (exists_readRequire_iff.1 ⟨_, checked.pattern⟩)
      (RewriteRule.exists_ofSpecs_iff.1 ⟨_, checked.rules⟩) ?_
    intro inner same
    have nested := checked.nested
    rw [same, name] at nested
    generalize d.unwind = unwind at nested
    cases nested with
    | some holds => exact ih inner same holds

theorem exists_ofSpec_of_valid (valid : spec.Valid compile key) :
    ∃ d, ofSpec compile key spec = .ok d := by
  induction valid with
  | @intro spec key named merges path require rules _ ih =>
    obtain ⟨rs, rewrites⟩ :
        ∃ rs, RewriteRule.ofSpecs compile (spec.outputName key) 0 spec.rewrite = .ok rs :=
      RewriteRule.exists_ofSpecs_iff.2 rules
    obtain ⟨pattern, reads⟩ :
        ∃ pattern, readRequire compile (spec.outputName key) spec.require = .ok pattern :=
      exists_readRequire_iff.2 require
    have below : ∃ unwind, Option.Rel
        (fun inner e => ofSpec compile (spec.outputName key) inner = .ok e) spec.unwind unwind := by
      cases declared : spec.unwind with
      | none => exact ⟨none, .none⟩
      | some inner =>
        obtain ⟨e, holds⟩ := ih inner declared
        exact ⟨some e, .some holds⟩
    obtain ⟨unwind, nested⟩ := below
    exact ⟨⟨spec.outputName key, sourcesOf spec, spec.kind, spec.ensure, spec.required, rs, pattern,
      unwind, spec.relation⟩, ofSpec_of_checked ⟨rfl, named, rfl, rfl, rfl, rfl, merges,
        checkPath_eq_ok_iff.2 path, rfl, rewrites, reads, nested⟩⟩

theorem exists_ofSpec_iff : (∃ d, ofSpec compile key spec = .ok d) ↔ spec.Valid compile key :=
  ⟨fun ⟨_, run⟩ => valid_of_ofSpec run, exists_ofSpec_of_valid⟩

theorem follows_ofSpec (run : ofSpec compile key spec = .ok d) : d.Follows key spec := by
  induction spec using AttributeSpec.induction generalizing key d with
  | step spec ih =>
    have checked := checked_ofSpec run
    refine .intro checked.name checked.kind checked.ensure checked.required checked.relation ?_ ?_ ?_
    · rw [checked.sources, sourcesOf, AttributeSpec.literal?]
      split <;> rfl
    · have nested := checked.nested
      generalize d.unwind = unwind, spec.unwind = declared at nested
      cases nested <;> rfl
    · intro e inner there declared
      have nested := checked.nested
      rw [declared, there] at nested
      cases nested with
      | some holds => exact ih inner declared holds

theorem ofRecord_eq_mapM {specs : Record} {declared : Keyed AttributeSpec}
    (reads : Decode.keyed AttributeSpec.ofValue (.object specs) = .ok declared) :
    ofRecord compile specs = declared.mapM fun entry => ofSpec compile entry.1 entry.2 := by
  have pairs := Except.mapM_eq_ok_iff.1 reads
  clear reads
  unfold ofRecord
  induction pairs with
  | nil => rfl
  | cons read _ ih =>
    obtain ⟨spec, given, rfl⟩ := Except.map_eq_ok read
    simp [List.mapM_cons, ih, ofEntry, given]

theorem map_name_of_forall₂ {declared : Keyed AttributeSpec} {ds : List AttributeDefinition}
    (built : List.Forall₂ (fun entry d => ofSpec compile entry.1 entry.2 = .ok d) declared ds) :
    ds.map AttributeDefinition.name = declared.map fun entry => entry.2.outputName entry.1 := by
  induction built with
  | nil => rfl
  | cons run _ ih => exact congrArg₂ List.cons (checked_ofSpec run).name ih

end AttributeDefinition

namespace Mapper

variable {compile : Pattern.Compiler} {specs : Record} {declared : Keyed AttributeSpec}
  {m : Mapper}

theorem ofRecord_eq_ok_iff
    (reads : Decode.keyed AttributeSpec.ofValue (.object specs) = .ok declared) :
    ofRecord compile specs = .ok m ↔
      List.Forall₂ (fun entry d => AttributeDefinition.ofSpec compile entry.1 entry.2 = .ok d)
        declared m.definitions := by
  unfold ofRecord
  rw [AttributeDefinition.ofRecord_eq_mapM reads, ← Except.mapM_eq_ok_iff]
  constructor
  · intro run
    obtain ⟨ds, built, run⟩ := Except.bind_eq_ok run
    unfold ofDefinitions at run
    split at run
    · cases run
      exact built
    · cases run
  · intro built
    rw [built]
    exact dif_pos m.distinct

theorem exists_ofRecord_iff
    (reads : Decode.keyed AttributeSpec.ofValue (.object specs) = .ok declared) :
    (∃ m, ofRecord compile specs = .ok m) ↔
      (declared.map fun entry => entry.2.outputName entry.1).Nodup ∧
        ∀ entry ∈ declared, entry.2.Valid compile entry.1 := by
  have valid : (∀ entry ∈ declared, entry.2.Valid compile entry.1) ↔ ∃ ds, declared.mapM
      (fun entry => AttributeDefinition.ofSpec compile entry.1 entry.2) = .ok ds := by
    simp only [Except.exists_mapM_iff, AttributeDefinition.exists_ofSpec_iff]
  simp only [ofRecord_eq_ok_iff reads, valid, Except.mapM_eq_ok_iff]
  constructor
  · rintro ⟨m, built⟩
    exact ⟨AttributeDefinition.map_name_of_forall₂ built ▸ m.distinct, m.definitions, built⟩
  · rintro ⟨distinct, ds, built⟩
    exact ⟨⟨ds, AttributeDefinition.map_name_of_forall₂ built ▸ distinct⟩, built⟩

theorem resolvable_iff {i : String} :
    m.Resolvable i ↔ ∃ d ∈ m.definitions, d.name = i ∧ d.ensure ≠ .absent := by
  constructor
  · rintro ⟨d, found, present⟩
    exact ⟨d, List.mem_of_find?_eq_some found, by simpa using List.find?_some found, present⟩
  · rintro ⟨d, member, rfl, present⟩
    exact ⟨d, find?_of_mem member, present⟩

theorem resolvable_iff_declared
    (reads : Decode.keyed AttributeSpec.ofValue (.object specs) = .ok declared)
    (run : ofRecord compile specs = .ok m) {i : String} :
    m.Resolvable i ↔ ∃ entry ∈ declared,
      entry.2.outputName entry.1 = i ∧ entry.2.ensure ≠ .absent := by
  rw [resolvable_iff]
  have built := (ofRecord_eq_ok_iff reads).1 run
  clear run reads
  generalize m.definitions = ds at built
  induction built with
  | nil => simp
  | cons first _ ih =>
    have checked := AttributeDefinition.checked_ofSpec first
    simp [ih, checked.name, checked.ensure, AttributeSpec.outputName]

end Mapper

namespace Workflow

variable {compile : Pattern.Compiler} {spec : WorkflowSpec} {declared : Keyed AttributeSpec}

theorem blankField?_eq_none_iff : blankField? spec = none ↔
    Text.isBlankText spec.collection = false ∧ Text.isBlankText spec.endpoint = false := by
  unfold blankField?
  cases Text.isBlankText spec.collection <;> cases Text.isBlankText spec.endpoint <;> simp

theorem exists_ofSpec_of_mapper {m : Mapper} (name : Text.isBlankText spec.name = false)
    (fields : blankField? spec = none) (ensure : spec.ensure ≠ .merge)
    (run : Mapper.ofRecord compile spec.attributes = .ok m)
    (resolvable : ∀ i ∈ spec.identifiers, m.Resolvable i) : ∃ w, ofSpec compile spec = .ok w := by
  have faultless : spec.identifiers.findSome? (identifierFault? m) = none :=
    List.findSome?_eq_none_iff.2 fun i member =>
      (identifierFault?_eq_none_iff m i).2 (resolvable i member)
  -- None of the early exits is taken, in their order.
  unfold ofSpec
  rw [if_neg (by simp [name]), fields, dif_neg ensure]
  dsimp only
  rw [run]
  dsimp only
  split
  · rename_i fault
    simp [faultless] at fault
  · exact ⟨_, rfl⟩

-- The check accepts the workflows that are valid and no others, and what it makes of one follows
-- its declarations in their order.
theorem accepted_iff_valid
    (reads : Decode.keyed AttributeSpec.ofValue (.object spec.attributes) = .ok declared) :
    ((∃ w, ofSpec compile spec = .ok w) ↔ spec.Valid compile declared) ∧
      ∀ w, ofSpec compile spec = .ok w →
        List.Forall₂ (fun entry d => d.Follows entry.1 entry.2) declared
          w.mapper.definitions := by
  refine ⟨⟨?_, ?_⟩, ?_⟩
  · rintro ⟨w, run⟩
    obtain ⟨name, fields, built, ensure, same⟩ := ofSpec_eq_ok run
    obtain ⟨collection, endpoint⟩ := blankField?_eq_none_iff.1 fields
    obtain ⟨distinct, attributes⟩ := (Mapper.exists_ofRecord_iff reads).1 ⟨_, built⟩
    refine ⟨name, collection, endpoint, ensure ▸ w.ensure_ne_merge, distinct, ?_, attributes⟩
    intro i member
    exact (Mapper.resolvable_iff_declared reads built).1 (w.resolvable i (same ▸ member))
  · intro valid
    obtain ⟨m, built⟩ := (Mapper.exists_ofRecord_iff reads).2 ⟨valid.distinct, valid.attributes⟩
    refine exists_ofSpec_of_mapper valid.name
      (blankField?_eq_none_iff.2 ⟨valid.collection, valid.endpoint⟩) valid.ensure built ?_
    intro i member
    exact (Mapper.resolvable_iff_declared reads built).2 (valid.identifiers i member)
  · intro w run
    have built := (Mapper.ofRecord_eq_ok_iff reads).1 (mapper_ofSpec run)
    exact built.imp fun _ _ => AttributeDefinition.follows_ofSpec

def initial (c : Char) : Pattern where
  text := "^" ++ c.toString
  accepts text := text.toList.head? = some c
  replaceAll replacement text :=
    if text.toList.head? = some c then replacement ++ String.ofList text.toList.tail else text

-- The same workflow is refused when the declaration for one team, which is no array, merges too, and
-- when the pattern for one team does not compile.
theorem accepted_iff_valid_for_teams :
    let attributes (merges required : String) : Record :=
      [("uid", .object [("from", .string "id"), ("rename", .string "login")]),
        ("teams", .object [("from", .string "org.teams"), ("type", .string "array"),
          ("ensure", .string "MERGE"), ("unwind", .object [("from", .string "root"),
            ("ensure", .string merges), ("require", .string required),
            ("rewrite", .array [.object [("match", .string "^x"), ("to", .string "y")]])])])]
    let spec (merges required : String) : WorkflowSpec :=
      ⟨"teams", "users", "ldap", .latest, none, ["login"], attributes merges required⟩
    let compile := Pattern.among [initial 't', initial 'x']
    (∃ w, ofSpec compile (spec "LAST" "^t") = .ok w ∧ w.mapper.names = ["login", "teams"]) ∧
      (¬ ∃ w, ofSpec compile (spec "MERGE" "^t") = .ok w) ∧
      ¬ ∃ w, ofSpec compile (spec "LAST" "(") = .ok w := by
  intro attributes spec compile
  let rule : RewriteSpec := ⟨.string "^x", .string "y", true⟩
  let team (ensure : Ensure) (required : String) : AttributeSpec :=
    ⟨some "root", .null, none, .string, ensure, true, none, [rule], some required, none, none⟩
  let teams (ensure : Ensure) (required : String) : AttributeSpec :=
    ⟨some "org.teams", .null, none, .array, .merge, true, none, [], none,
      some (team ensure required), none⟩
  let login : AttributeSpec :=
    ⟨some "id", .null, none, .string, .latest, true, some "login", [], none, none, none⟩
  have ruleValid : rule.Valid compile := ⟨nofun, nofun, fun _ => ⟨_, _, rfl, rfl, _, rfl⟩⟩
  have teamValid : (team .latest "^t").Valid compile "teams" := by
    refine .intro (by decide) nofun ?_ ?_ (by simpa [team] using ruleValid) nofun
    · rintro path ⟨⟩
      decide
    · rintro text ⟨⟩
      exact ⟨_, rfl⟩
  have teamsValid : (teams .latest "^t").Valid compile "teams" := by
    refine .intro (by decide) (fun _ => rfl) ?_ nofun nofun ?_
    · rintro path ⟨⟩
      decide
    · rintro inner ⟨⟩
      exact teamValid
  have loginValid : login.Valid compile "uid" := by
    refine .intro (by decide) nofun ?_ nofun nofun nofun
    rintro path ⟨⟩
    decide
  have valid : (spec "LAST" "^t").Valid compile
      [("uid", login), ("teams", teams .latest "^t")] := by
    refine ⟨by decide, by decide, by decide, by decide, by decide, ?_, ?_⟩
    · simp [spec, login, AttributeSpec.outputName]
    · simp [loginValid, teamsValid]
  have reads (required : String) :
      Decode.keyed AttributeSpec.ofValue (.object (spec "LAST" required).attributes) =
        .ok [("uid", login), ("teams", teams .latest required)] := rfl
  have merging : Decode.keyed AttributeSpec.ofValue (.object (spec "MERGE" "^t").attributes) =
      .ok [("uid", login), ("teams", teams .merge "^t")] := rfl
  refine ⟨?_, fun accepted => ?_, fun accepted => ?_⟩
  · obtain ⟨accepts, follows⟩ := accepted_iff_valid (reads "^t")
    obtain ⟨w, run⟩ := accepts.2 valid
    refine ⟨w, run, ?_⟩
    have follows := follows w run
    unfold Mapper.names
    generalize w.mapper.definitions = ds at follows ⊢
    rcases follows with _ | ⟨⟨first⟩, _ | ⟨⟨second⟩, _ | _⟩⟩
    rw [List.map_cons, List.map_cons, first, second]
    rfl
  · have valid := (accepted_iff_valid merging).1.1 accepted
    cases valid.attributes ("teams", teams .merge "^t") (by simp) with
    | intro _ _ _ _ _ nested =>
      cases nested (team .merge "^t") rfl with
      | intro _ merges =>
        cases merges rfl
  · have valid := (accepted_iff_valid (reads "(")).1.1 accepted
    cases valid.attributes ("teams", teams .latest "(") (by simp) with
    | intro _ _ _ _ _ nested =>
      cases nested (team .latest "(") rfl with
      | intro _ _ _ require =>
        obtain ⟨p, compiles⟩ := require "(" rfl
        cases compiles

end Workflow

end RecordSync
