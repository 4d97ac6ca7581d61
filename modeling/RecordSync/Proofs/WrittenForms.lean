import RecordSync.Filter
import RecordSync.Proofs.Acceptance
import RecordSync.Proofs.PrintedDocuments

set_option autoImplicit false

namespace RecordSync

namespace Decode

variable {α : Type} {read : Value → Decoded α} {write : α → Value}

theorem list_map_write {xs : List α} (each : ∀ x ∈ xs, read (write x) = .ok x) :
    list read (.array (xs.map write)) = .ok xs := by
  rw [list]
  induction xs with
  | nil => rfl
  | cons x xs ih =>
    obtain ⟨first, later⟩ := List.forall_mem_cons.1 each
    rw [List.map_cons, List.mapM_cons, first, ih later]
    rfl

theorem option_of_ne_null {v : Value} (given : v ≠ .null) : option read v = (read v).map some := by
  cases v <;> simp_all [option]

end Decode

namespace Shape

variable {α : Type} {shape : Shape} {put : String → Value → α → Decoded α} {a b c : α}
  {name : String} {names : List String} {v : Value} {entries : List (String × Value)}

-- Entries that lead from one structure to another when they are put into it in turn. They are in
-- the order of the names, of which some may be left out.
inductive Fills (put : String → Value → α → Decoded α) :
    List String → List (String × Value) → α → α → Prop
  | nil (a : α) : Fills put [] [] a a
  | skip {name : String} {names : List String} {entries : List (String × Value)} {a b : α}
    (later : Fills put names entries a b) : Fills put (name :: names) entries a b
  | write {name : String} {names : List String} {v : Value} {entries : List (String × Value)}
    {a b c : α} (first : put name v a = .ok b) (later : Fills put names entries b c) :
    Fills put (name :: names) ((name, v) :: entries) a c

theorem Fills.unless {skipped : Prop} [Decidable skipped] (without : skipped → a = b)
    (given : ¬skipped → put name v a = .ok b) (later : Fills put names entries b c) :
    Fills put (name :: names) ((if skipped then [] else [(name, v)]) ++ entries) a c := by
  by_cases skip : skipped
  · rw [if_pos skip, without skip]
    exact later.skip
  · rw [if_neg skip]
    exact .write (given skip) later

theorem Fills.list {β : Type} {xs : List β} (set : List β → α)
    (given : put name v (set []) = .ok (set xs)) (later : Fills put names entries (set xs) c) :
    Fills put (name :: names) ((if xs.isEmpty then [] else [(name, v)]) ++ entries) (set []) c :=
  .unless (fun empty => by rw [List.isEmpty_iff.1 empty]) (fun _ => given) later

theorem Fills.optional {β : Type} {x : Option β} {write : β → Value} (set : Option β → α)
    (given : ∀ y, put name (write y) (set none) = .ok (set (some y)))
    (later : Fills put names entries (set x) c) :
    Fills put (name :: names) (AttributeSpec.optional name (x.map write) ++ entries) (set none) c := by
  cases x with
  | none => exact later.skip
  | some y => exact .write (given y) later

theorem Fills.readEntries (fills : Fills put names entries a b)
    (known : ∀ name ∈ names, name ∈ shape.fields) {seen : List String}
    (fresh : (seen ++ names).Nodup) :
    shape.readEntries put seen entries a = .ok ((Keyed.keys entries).reverse ++ seen, b) := by
  induction fills generalizing seen with
  | nil => rfl
  | skip _ ih =>
    exact ih (List.forall_mem_cons.1 known).2
      (fresh.sublist ((List.sublist_cons_self _ _).append_left seen))
  | @write name names v entries a b c first _ ih =>
    obtain ⟨mem, known⟩ := List.forall_mem_cons.1 known
    -- The name joins those that were seen, and those to come are still apart from them.
    have fresh : (name :: seen ++ names).Nodup := List.perm_middle.nodup_iff.1 fresh
    have new : name ∉ seen := fun old => (List.nodup_cons.1 fresh).1 (List.mem_append_left _ old)
    simp only [Shape.readEntries, List.contains_iff_mem, mem, new, if_true, if_false, first]
    rw [Keyed.keys_cons, List.reverse_cons, List.append_assoc]
    exact ih known fresh

theorem Fills.read (fills : Fills put shape.fields entries a b) (origin : Origin)
    (apart : shape.fields.Nodup) (given : ∀ name ∈ shape.required, name ∈ Keyed.keys entries) :
    shape.read origin put a (.object entries) = .ok b := by
  have entriesRead : shape.readEntries put [] entries a =
      .ok ((Keyed.keys entries).reverse ++ [], b) := fills.readEntries (fun _ mem => mem) apart
  have complete : (shape.required.find? fun name =>
      !((Keyed.keys entries).reverse ++ []).contains name) = none := by
    simpa using given
  simp only [Shape.read, entriesRead, bind, Except.bind, complete]
  rfl

end Shape

namespace Filter

theorem induction {motive : Filter → Prop}
    (equals : ∀ path value, motive (.equals path value)) (present : ∀ path, motive (.present path))
    (all : ∀ filters, (∀ f ∈ filters, motive f) → motive (.all filters)) (f : Filter) : motive f := by
  refine @Filter.rec motive (fun filters => ∀ f ∈ filters, motive f) equals present all ?_ ?_ f
  · exact fun _ mem => nomatch mem
  · exact fun _ _ first later => List.forall_mem_cons.2 ⟨first, later⟩

theorem toValues_eq_map (filters : List Filter) : toValues filters = filters.map toValue := by
  induction filters with
  | nil => rfl
  | cons f filters ih => rw [toValues, ih, List.map_cons]

theorem ofValueWithin_all (filters : List Filter) (depth : Nat) :
    ofValueWithin (depth + 1) (all filters).toValue =
      (do return all (← Decode.list (ofValueWithin depth) (.array (filters.map toValue)))) := by
  rw [← toValues_eq_map]
  rfl

theorem ofValueWithin_toValue {f : Filter} {depth : Nat} (deep : f.toValue.depth ≤ depth) :
    ofValueWithin (depth + 1) f.toValue = .ok f := by
  induction f using induction generalizing depth with
  | equals path value => rfl
  | present path => rfl
  | all filters ih =>
    simp only [toValue, Value.depth, Value.depthFields, toValues_eq_map] at deep
    obtain ⟨depth, rfl⟩ : ∃ below, depth = below + 1 := ⟨depth - 1, by omega⟩
    have each : Decode.list (ofValueWithin (depth + 1)) (.array (filters.map toValue)) = .ok filters := by
      refine Decode.list_map_write fun f mem => ih f mem ?_
      have within := Document.depth_le_depthItems (List.mem_map_of_mem (f := toValue) mem)
      omega
    rw [ofValueWithin_all, each]
    rfl

theorem ofValue_toValue (f : Filter) : ofValue f.toValue = .ok f :=
  ofValueWithin_toValue (Nat.le_refl _)

end Filter

namespace Change

theorem ofValue_toValue (c : Change) : ofValue c.toValue = .ok c := by
  cases c with
  | replace v => rfl
  | remove => rfl
  | add items =>
    have each : Decode.list .ok (.array (items.map id)) = .ok items :=
      Decode.list_map_write fun _ _ => rfl
    rw [List.map_id] at each
    change (Decode.list .ok (.array items)).map Change.add = _
    rw [each]
    rfl

end Change

theorem RewriteSpec.ofValue_toValue (rule : RewriteSpec) : ofValue rule.toValue = .ok rule := rfl

theorem Kind.ofValue_toValue (k : Kind) : ofValue k.toValue = .ok k := by
  cases k <;> rfl

theorem Ensure.ofValue_toValue (origin : Origin) (e : Ensure) : ofValue origin e.toValue = .ok e := by
  cases e <;> rfl

namespace Delta

theorem ofValue_toValue (d : Delta) : ofValue d.toValue = .ok d := by
  obtain ⟨added, removed, replaced, cleared⟩ := d
  have names : Decode.list Decode.string (.ofStrings cleared) = .ok cleared :=
    Decode.list_map_write fun _ _ => rfl
  refine Shape.Fills.read ?_ _ (by decide) (by simp [shape])
  rw [List.append_assoc, List.append_assoc, ← List.append_nil (ite _ _ _)]
  refine .list (mk · [] [] []) ?_ ?_
  · rfl
  refine .list (mk added · [] []) ?_ ?_
  · rfl
  refine .list (mk added removed · []) ?_ ?_
  · rfl
  refine .list (mk added removed replaced ·) ?_ (.nil _)
  simp only [names]
  rfl

end Delta

namespace AttributeSpec

variable {read : Value → Decoded AttributeSpec}

theorem toValue_eq_object (spec : AttributeSpec) :
    ∃ fields, spec.toValue = .object fields ∧
      ∀ inner, spec.unwind = some inner → ("unwind", inner.toValue) ∈ fields := by
  cases spec
  refine ⟨_, by unfold toValue; rfl, ?_⟩
  rintro inner rfl
  simp

theorem toValue_ne_null (spec : AttributeSpec) : spec.toValue ≠ .null := by
  obtain ⟨fields, object, -⟩ := spec.toValue_eq_object
  simp [object]

theorem depth_unwind {spec inner : AttributeSpec} (unwinds : spec.unwind = some inner) :
    inner.toValue.depth < spec.toValue.depth := by
  obtain ⟨fields, object, unwind⟩ := spec.toValue_eq_object
  rw [object, Value.depth]
  exact Nat.lt_succ_of_le (Document.depth_le_depthFields (unwind inner unwinds))

theorem read_toValue (spec : AttributeSpec)
    (nested : ∀ inner, spec.unwind = some inner → read inner.toValue = .ok inner) :
    shape.read .tree (put read) blank spec.toValue = .ok spec := by
  obtain ⟨path, literal, expression, kind, ensure, required, rename, rewrite, require, unwind,
    relation⟩ := spec
  have rules : Decode.list RewriteSpec.ofValue (.array (rewrite.map RewriteSpec.toValue)) =
      .ok rewrite :=
    Decode.list_map_write fun rule _ => rule.ofValue_toValue
  unfold toValue
  refine Shape.Fills.read ?_ _ (by decide) (by simp [shape])
  simp only [List.append_assoc]
  -- One field after the other, each put into what those before it have made of the blank.
  refine .optional (fun path => { blank with path }) ?_ ?_
  · exact fun _ => rfl
  refine .unless (b := { blank with path, literal }) ?_ ?_ ?_
  · exact fun null => by rw [(Value.isNull_iff literal).1 null]; rfl
  · exact fun _ => rfl
  refine .optional (fun expression => { blank with path, literal, expression }) ?_ ?_
  · exact fun _ => rfl
  refine .write (b := { blank with path, literal, expression, kind }) ?_ ?_
  · simp [put, kind.ofValue_toValue]
  refine .write (b := { blank with path, literal, expression, kind, ensure }) ?_ ?_
  · simp [put, ensure.ofValue_toValue]
  refine .write (b := { blank with path, literal, expression, kind, ensure, required }) rfl ?_
  refine .optional (fun rename =>
    { blank with path, literal, expression, kind, ensure, required, rename }) ?_ ?_
  · exact fun _ => rfl
  refine .list (fun rewrite =>
    { blank with path, literal, expression, kind, ensure, required, rename, rewrite }) ?_ ?_
  · simp [put, rules]
  refine .optional (fun require =>
    { blank with path, literal, expression, kind, ensure, required, rename, rewrite, require }) ?_ ?_
  · exact fun _ => rfl
  have last : Shape.Fills (put read) ["relation"]
      (optional "relation" (relation.map RelationLink.toValue))
      (mk path literal expression kind ensure required rename rewrite require unwind none)
      (mk path literal expression kind ensure required rename rewrite require unwind relation) := by
    rw [← List.append_nil (optional _ _)]
    refine .optional (mk path literal expression kind ensure required rename rewrite require unwind ·)
      ?_ (.nil _)
    exact fun _ => rfl
  cases unwind with
  | none => exact last.skip
  | some inner =>
    refine .write ?_ last
    simp [put, blank, Decode.option_of_ne_null inner.toValue_ne_null, nested inner rfl, Except.map]

theorem ofValueWithin_toValue {spec : AttributeSpec} {depth : Nat}
    (deep : spec.toValue.depth ≤ depth) : ofValueWithin (depth + 1) spec.toValue = .ok spec := by
  induction spec using induction generalizing depth with
  | step spec ih =>
    refine read_toValue spec fun inner unwinds => ?_
    have below := depth_unwind unwinds
    obtain ⟨depth, rfl⟩ : ∃ d, depth = d + 1 := ⟨depth - 1, by omega⟩
    exact ih inner unwinds (by omega)

theorem ofValue_toValue (spec : AttributeSpec) : ofValue spec.toValue = .ok spec :=
  ofValueWithin_toValue (Nat.le_refl _)

end AttributeSpec

-- Filters, changes, deltas and declarations are read back as they were written. A null literal
-- stands for one that is not given, so every declaration is one that can be read.
theorem written_forms_read_back :
    (∀ f : Filter, Filter.ofValue f.toValue = .ok f) ∧
    (∀ c : Change, Change.ofValue c.toValue = .ok c) ∧
    (∀ d : Delta, Delta.ofValue d.toValue = .ok d) ∧
    ∀ spec : AttributeSpec, AttributeSpec.ofValue spec.toValue = .ok spec :=
  ⟨Filter.ofValue_toValue, Change.ofValue_toValue, Delta.ofValue_toValue,
    AttributeSpec.ofValue_toValue⟩

end RecordSync
