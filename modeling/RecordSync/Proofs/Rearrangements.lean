import Mathlib.Data.Multiset.MapFold
import Mathlib.Logic.Relation
import RecordSync.Proofs.Symmetry

set_option autoImplicit false

namespace RecordSync

theorem Number.agrees_iff_eq {m n : Number} (mFits : m.asInt64?.isSome = true)
    (nFits : n.asInt64?.isSome = true) : m.agrees n = true ↔ m = n := by
  cases m with
  | float f finite => simp [asInt64?] at mFits
  | int i iRange =>
    cases n with
    | float f finite => simp [asInt64?] at nFits
    | int j jRange =>
      have iSigned : i < 0x8000000000000000 := by simpa [asInt64?] using mFits
      have jSigned : j < 0x8000000000000000 := by simpa [asInt64?] using nFits
      rw [agrees_int_iff iRange jRange iSigned jSigned, Number.int.injEq]

namespace Value

inductive Integral : Value → Prop
  | null : Integral .null
  | bool (b : Bool) : Integral (.bool b)
  | number {n : Number} (fits : n.asInt64?.isSome = true) : Integral (.number n)
  | string (s : String) : Integral (.string s)
  | array {items : List Value} (each : ∀ item ∈ items, item.Integral) : Integral (.array items)
  | object {fields : Record} (each : ∀ entry ∈ fields, entry.2.Integral) : Integral (.object fields)

structure IntegerData (v : Value) : Prop where
  keyed : v.WellKeyed
  integral : v.Integral

-- One array or one object, at any depth, is brought into another order.
inductive Reorders : Value → Value → Prop
  | items {xs ys : List Value} (perm : xs.Perm ys) : Reorders (.array xs) (.array ys)
  | fields {xs ys : Record} (perm : xs.Perm ys) : Reorders (.object xs) (.object ys)
  | item (before after : List Value) {x y : Value} (inner : Reorders x y) :
    Reorders (.array (before ++ x :: after)) (.array (before ++ y :: after))
  | field (before after : Record) (key : String) {x y : Value} (inner : Reorders x y) :
    Reorders (.object (before ++ (key, x) :: after)) (.object (before ++ (key, y) :: after))

def Rearranges : Value → Value → Prop := Relation.ReflTransGen Reorders

theorem integerData_array_iff {items : List Value} :
    (array items).IntegerData ↔ ∀ item ∈ items, item.IntegerData := by
  constructor
  · rintro ⟨keyed, _ | _ | _ | _ | each⟩ item member
    exact ⟨(wellKeyed_array_iff items).1 keyed item member, each item member⟩
  · intro data
    exact ⟨(wellKeyed_array_iff items).2 fun item member => (data item member).keyed,
      .array fun item member => (data item member).integral⟩

theorem integerData_object_iff {fields : Record} :
    (object fields).IntegerData ↔
      Keyed.Distinct fields ∧ ∀ entry ∈ fields, entry.2.IntegerData := by
  constructor
  · rintro ⟨keyed, _ | _ | _ | _ | _ | each⟩
    exact ⟨Record.WellKeyed.distinct keyed,
      fun entry member => ⟨Record.WellKeyed.value keyed member, each entry member⟩⟩
  · rintro ⟨distinct, data⟩
    exact ⟨(Record.wellKeyed_iff fields).2 ⟨distinct, fun entry member => (data entry member).keyed⟩,
      .object fun entry member => (data entry member).integral⟩

theorem IntegerData.reorders {a b : Value} (data : a.IntegerData) (step : a.Reorders b) :
    b.IntegerData := by
  induction step with
  | items perm =>
    rw [integerData_array_iff] at data ⊢
    exact fun item member => data item (perm.mem_iff.2 member)
  | fields perm =>
    rw [integerData_object_iff] at data ⊢
    exact ⟨(perm.map Prod.fst).nodup_iff.1 data.1,
      fun entry member => data.2 entry (perm.mem_iff.2 member)⟩
  | item before after _ ih =>
    simp only [integerData_array_iff, List.forall_mem_append, List.forall_mem_cons] at data ⊢
    exact ⟨data.1, ih data.2.1, data.2.2⟩
  | field before after key _ ih =>
    simp only [integerData_object_iff, List.forall_mem_append, List.forall_mem_cons] at data ⊢
    refine ⟨?_, data.2.1, ih data.2.2.1, data.2.2.2⟩
    simpa [Keyed.Distinct, Keyed.keys] using data.1

theorem IntegerData.rearranges {a b : Value} (data : a.IntegerData) (path : a.Rearranges b) :
    b.IntegerData := by
  induction path with
  | refl => exact data
  | tail _ step ih => exact ih.reorders step

theorem Rearranges.item (before after : List Value) {x y : Value} (path : x.Rearranges y) :
    (array (before ++ x :: after)).Rearranges (array (before ++ y :: after)) := by
  induction path with
  | refl => exact .refl
  | tail _ step ih => exact ih.tail (.item before after step)

theorem Rearranges.field (before after : Record) (key : String) {x y : Value}
    (path : x.Rearranges y) :
    (object (before ++ (key, x) :: after)).Rearranges (object (before ++ (key, y) :: after)) := by
  induction path with
  | refl => exact .refl
  | tail _ step ih => exact ih.tail (.field before after key step)

theorem array_agrees_iff {xs : List Value} {b : Value} :
    (array xs).agrees b = true ↔
      ∃ ys, b = .array ys ∧ xs.length = ys.length ∧ agreesItems xs ys = true := by
  cases b <;> simp [agrees]

theorem object_agrees_iff {xs : Record} {b : Value} :
    (object xs).agrees b = true ↔
      ∃ ys : Record, b = .object ys ∧ xs.length = ys.length ∧
        ∀ entry ∈ xs, ∃ y, Keyed.get? entry.1 ys = some y ∧ entry.2.agrees y = true := by
  cases b <;> simp [agrees, agreesFields_iff]

theorem eq_of_agrees {a b : Value} (aData : a.IntegerData) (bData : b.IntegerData)
    (scalar : a.isContainer = false) (agree : a.agrees b = true) : a = b := by
  obtain ⟨_, aIntegral⟩ := aData
  obtain ⟨_, bIntegral⟩ := bData
  cases aIntegral with
  | array => cases scalar
  | object => cases scalar
  | number mFits =>
    cases bIntegral with
    | number nFits =>
      exact congrArg number ((Number.agrees_iff_eq mFits nFits).1 (by simpa [agrees] using agree))
    | _ => simp [agrees] at agree
  | _ => cases bIntegral <;> simp_all [agrees]

def Paired (s t : Multiset Value) : Prop := s.Rel (fun x y => x.agrees y = true) t

theorem Paired.cons {x y : Value} {s t : Multiset Value} (agree : x.agrees y = true)
    (paired : Paired s t) : Paired (x ::ₘ s) (y ::ₘ t) :=
  Multiset.Rel.cons agree paired

theorem paired_cons_left {x : Value} {s t : Multiset Value} :
    Paired (x ::ₘ s) t ↔ ∃ y u, x.agrees y = true ∧ Paired s u ∧ t = y ::ₘ u :=
  Multiset.rel_cons_left

theorem paired_cons_right {s t : Multiset Value} {y : Value} :
    Paired s (y ::ₘ t) ↔ ∃ x u, x.agrees y = true ∧ Paired u t ∧ s = x ::ₘ u :=
  Multiset.rel_cons_right

theorem Paired.trans {s t u : Multiset Value} (first : Paired s t) (second : Paired t u)
    (each : ∀ x ∈ s, ∀ y ∈ t, ∀ z ∈ u, x.agrees y = true → y.agrees z = true → x.agrees z = true) :
    Paired s u := by
  induction first generalizing u with
  | zero => exact second
  | @cons x y s t agree _ ih =>
    obtain ⟨z, u, next, rest, rfl⟩ := paired_cons_left.1 second
    refine .cons (each x (by simp) y (by simp) z (by simp) agree next) (ih rest ?_)
    exact fun x' xMember y' yMember z' zMember =>
      each x' (by simp [xMember]) y' (by simp [yMember]) z' (by simp [zMember])

theorem coe_of_removeFirst? {p : Value → Bool} {ys rest : List Value}
    (removed : removeFirst? p ys = some rest) :
    ∃ y, (ys : Multiset Value) = y ::ₘ ↑rest ∧ p y = true := by
  obtain ⟨before, y, after, rfl, rfl, holds, _⟩ := removeFirst?_eq_some removed
  exact ⟨y, Multiset.coe_eq_coe.2 List.perm_middle, holds⟩

theorem paired_of_agreesItems {xs ys : List Value} (length : xs.length = ys.length)
    (agree : agreesItems xs ys = true) : Paired xs ys := by
  induction xs generalizing ys with
  | nil =>
    obtain rfl := List.length_eq_zero_iff.1 length.symm
    exact .zero
  | cons x xs ih =>
    cases taken : removeFirst? (fun y => x.agrees y) ys with
    | none => simp [agreesItems, taken] at agree
    | some rest =>
      obtain ⟨y, split, holds⟩ := coe_of_removeFirst? taken
      have shorter : xs.length = rest.length := by
        simpa [← length] using congrArg Multiset.card split
      have later := ih shorter (by simpa [agreesItems, taken] using agree)
      rw [split]
      exact Paired.cons holds later

theorem agreesItems_of_paired {xs ys : List Value}
    (exchange : ∀ x ∈ xs, ∀ x' ∈ xs, ∀ y ∈ ys, ∀ y' ∈ ys, x.agrees y = true →
      x.agrees y' = true → x'.agrees y = true → x'.agrees y' = true)
    (paired : Paired xs ys) : agreesItems xs ys = true := by
  induction xs generalizing ys with
  | nil => simp [agreesItems]
  | cons x xs ih =>
    obtain ⟨y', t, partner, others, split⟩ :=
      paired_cons_left.1 (show Paired (x ::ₘ ↑xs) ys from paired)
    have partnerMember : y' ∈ ys := Multiset.mem_coe.1 (split ▸ Multiset.mem_cons_self y' t)
    cases taken : removeFirst? (fun y => x.agrees y) ys with
    | none => simp [removeFirst?_eq_none_iff.1 taken y' partnerMember] at partner
    | some rest =>
      obtain ⟨y, moved, holds⟩ := coe_of_removeFirst? taken
      have takenMember : y ∈ ys := Multiset.mem_coe.1 (moved ▸ Multiset.mem_cons_self y _)
      have subset (z : Value) (member : z ∈ rest) : z ∈ ys :=
        Multiset.mem_coe.1 (moved ▸ Multiset.mem_cons_of_mem member)
      have left : Paired xs rest := by
        rcases Multiset.cons_eq_cons.1 (split.symm.trans moved) with
          ⟨_, rfl⟩ | ⟨_, u, rfl, remaining⟩
        · exact others
        · -- The element whose partner was taken gets the one that was left.
          obtain ⟨x', s, robbed, others, present⟩ := paired_cons_right.1 others
          have member : x' ∈ xs := Multiset.mem_coe.1 (present ▸ Multiset.mem_cons_self x' s)
          rw [present, remaining]
          exact Paired.cons (exchange x (by simp) x' (by simp [member]) y takenMember y' partnerMember
            holds partner robbed) others
      have later : agreesItems xs rest = true := by
        refine ih (fun x₁ first x₂ second z third z' fourth => ?_) left
        exact exchange x₁ (by simp [first]) x₂ (by simp [second]) z (subset z third)
          z' (subset z' fourth)
      simp [agreesItems, taken, later]

theorem array_agrees_of_paired {xs ys : List Value} (xData : (array xs).IntegerData)
    (yData : (array ys).IntegerData)
    (trans : ∀ x ∈ xs, ∀ {y z : Value}, y.IntegerData → z.IntegerData →
      x.agrees y = true → y.agrees z = true → x.agrees z = true)
    (paired : Paired xs ys) : (array xs).agrees (array ys) = true := by
  rw [integerData_array_iff] at xData yData
  have length : xs.length = ys.length := by simpa using Multiset.card_eq_card_of_rel paired
  refine array_agrees_iff.2 ⟨ys, rfl, length, agreesItems_of_paired ?_ paired⟩
  intro x xMember x' xMember' y yMember y' yMember' first second third
  have back : y.agrees x = true :=
    agrees_symm (xData x xMember).keyed (yData y yMember).keyed ▸ first
  have same := trans x' xMember' (yData y yMember) (xData x xMember) third back
  exact trans x' xMember' (xData x xMember) (yData y' yMember') same second

theorem agrees_trans {a b c : Value} (aData : a.IntegerData) (bData : b.IntegerData)
    (cData : c.IntegerData) (first : a.agrees b = true) (second : b.agrees c = true) :
    a.agrees c = true := by
  induction a using Value.induction generalizing b c with
  | null => exact eq_of_agrees aData bData rfl first ▸ second
  | bool p => exact eq_of_agrees aData bData rfl first ▸ second
  | number n => exact eq_of_agrees aData bData rfl first ▸ second
  | string s => exact eq_of_agrees aData bData rfl first ▸ second
  | array xs ih =>
    obtain ⟨ys, rfl, xLength, xAgree⟩ := array_agrees_iff.1 first
    obtain ⟨zs, rfl, yLength, yAgree⟩ := array_agrees_iff.1 second
    have xEach := integerData_array_iff.1 aData
    have yEach := integerData_array_iff.1 bData
    have zEach := integerData_array_iff.1 cData
    refine array_agrees_of_paired aData cData ?_ ?_
    · exact fun x member _ _ yData zData => ih x member (xEach x member) yData zData
    · refine (paired_of_agreesItems xLength xAgree).trans (paired_of_agreesItems yLength yAgree) ?_
      exact fun x xMember y yMember z zMember =>
        ih x xMember (xEach x xMember) (yEach y yMember) (zEach z zMember)
  | object xs ih =>
    obtain ⟨ys, rfl, xLength, xAgree⟩ := object_agrees_iff.1 first
    obtain ⟨zs, rfl, yLength, yAgree⟩ := object_agrees_iff.1 second
    refine object_agrees_iff.2 ⟨zs, rfl, xLength.trans yLength, fun entry member => ?_⟩
    obtain ⟨y, inYs, agree⟩ := xAgree entry member
    obtain ⟨z, inZs, agree'⟩ := yAgree _ (Keyed.mem_of_get? inYs)
    refine ⟨z, inZs, ih entry member ((integerData_object_iff.1 aData).2 entry member) ?_ ?_
      agree agree'⟩
    · exact (integerData_object_iff.1 bData).2 _ (Keyed.mem_of_get? inYs)
    · exact (integerData_object_iff.1 cData).2 _ (Keyed.mem_of_get? inZs)

theorem agrees_of_reorders {a b : Value} (data : a.IntegerData) (step : a.Reorders b) :
    a.agrees b = true := by
  have after := data.reorders step
  induction step with
  | @items xs ys perm =>
    have each := integerData_array_iff.1 data
    refine array_agrees_of_paired data after
      (fun x member _ _ => agrees_trans (each x member)) ?_
    rw [← Multiset.coe_eq_coe.2 perm]
    exact Multiset.rel_refl_of_refl_on fun x member => agrees_self (each x member).keyed
  | @fields xs ys perm =>
    have each := integerData_object_iff.1 data
    have distinct := (integerData_object_iff.1 after).1
    refine object_agrees_iff.2 ⟨ys, rfl, perm.length_eq, fun entry member => ?_⟩
    exact ⟨entry.2, Keyed.get?_of_mem distinct (perm.mem_iff.1 member),
      agrees_self (each.2 entry member).keyed⟩
  | @item front back x y inner ih =>
    have each := integerData_array_iff.1 data
    have others := integerData_array_iff.1 after
    refine array_agrees_of_paired data after
      (fun x member _ _ => agrees_trans (each x member)) ?_
    rw [Multiset.coe_eq_coe.2 (List.perm_middle (a := x)),
      Multiset.coe_eq_coe.2 (List.perm_middle (a := y)), ← Multiset.cons_coe,
      ← Multiset.cons_coe]
    refine Paired.cons (ih (each x (by simp)) (others y (by simp))) ?_
    refine Multiset.rel_refl_of_refl_on fun z member => agrees_self (each z ?_).keyed
    exact List.mem_append.2 ((List.mem_append.1 member).imp_right (List.mem_cons_of_mem x))
  | @field front back key x y inner ih =>
    have each := integerData_object_iff.1 data
    have others := integerData_object_iff.1 after
    refine object_agrees_iff.2 ⟨_, rfl, by simp, fun entry member => ?_⟩
    by_cases same : entry = (key, x)
    · subst same
      refine ⟨y, Keyed.get?_of_mem others.1 (by simp), ih (each.2 _ member) ?_⟩
      exact others.2 (key, y) (by simp)
    · have kept : entry ∈ front ++ (key, y) :: back := by
        simp only [List.mem_append, List.mem_cons, same, false_or] at member ⊢
        exact member.imp_right Or.inr
      exact ⟨entry.2, Keyed.get?_of_mem others.1 kept, agrees_self (each.2 entry member).keyed⟩

theorem agrees_of_rearranges {a b : Value} (data : a.IntegerData) (path : a.Rearranges b) :
    a.agrees b = true := by
  induction path with
  | refl => exact agrees_self data.keyed
  | @tail b c path step ih =>
    have middle := data.rearranges path
    exact agrees_trans data middle (middle.reorders step) ih (agrees_of_reorders middle step)

-- Pairs are brought in line one after the other, and then into the order of the other side.
theorem rearranges_of_rel {α : Type} (wrap : List α → Value) {r : α → α → Prop}
    (reorder : ∀ {xs ys}, xs.Perm ys → (wrap xs).Rearranges (wrap ys))
    (replace : ∀ before after {x y}, r x y →
      (wrap (before ++ x :: after)).Rearranges (wrap (before ++ y :: after)))
    {xs ys : List α} (rel : Multiset.Rel r xs ys) : (wrap xs).Rearranges (wrap ys) := by
  suffices general : ∀ before, (wrap (before ++ xs)).Rearranges (wrap (before ++ ys)) from
    general []
  induction xs generalizing ys with
  | nil =>
    obtain rfl : ys = [] := by simpa using rel
    exact fun before => .refl
  | cons x xs ih =>
    intro before
    rw [← Multiset.cons_coe, Multiset.rel_cons_left] at rel
    obtain ⟨y, t, agree, others, split⟩ := rel
    obtain ⟨zs, rfl⟩ := Quot.exists_rep t
    have perm : (y :: zs).Perm ys := Multiset.coe_eq_coe.1 split.symm
    have tail := ih others (before ++ [y])
    simp only [List.append_assoc, List.singleton_append] at tail
    exact ((replace before xs agree).trans tail).trans (reorder (perm.append_left before))

theorem rel_of_covered {xs ys : Record} (xDistinct : Keyed.Distinct xs)
    (yDistinct : Keyed.Distinct ys) (length : xs.length = ys.length) {r : Value → Value → Prop}
    (covered : ∀ entry ∈ xs, ∃ y, Keyed.get? entry.1 ys = some y ∧ r entry.2 y) :
    Multiset.Rel (fun x y : String × Value => x.1 = y.1 ∧ r x.2 y.2) xs ys := by
  let counterpart (entry : String × Value) : String × Value :=
    (entry.1, (Keyed.get? entry.1 ys).getD .null)
  have sameKeys := Keyed.perm_keys xDistinct length fun entry member =>
    (covered entry member).imp fun _ => And.left
  have perm : ys.Perm (xs.map counterpart) := by
    have nodup : (xs.map counterpart).Nodup := by
      refine .of_map Prod.fst ?_
      rw [List.map_map]
      exact xDistinct
    refine (List.perm_ext_iff_of_nodup (.of_map _ yDistinct) nodup).2 fun (key, y) => ?_
    rw [List.mem_map]
    constructor
    · intro member
      obtain ⟨entry, there, rfl⟩ :=
        List.mem_map.1 (sameKeys.mem_iff.2 (Keyed.mem_keys_of_mem member))
      exact ⟨entry, there, by simp [counterpart, Keyed.get?_of_mem yDistinct member]⟩
    · rintro ⟨entry, there, same⟩
      obtain ⟨z, found, _⟩ := covered entry there
      rw [← same]
      simpa [counterpart, found] using Keyed.mem_of_get? found
  rw [Multiset.coe_eq_coe.2 perm, ← Multiset.map_coe, Multiset.rel_map_right]
  refine Multiset.rel_refl_of_refl_on fun entry member => ⟨rfl, ?_⟩
  obtain ⟨y, found, holds⟩ := covered entry member
  simpa [counterpart, found] using holds

theorem rearranges_of_agrees {a b : Value} (aData : a.IntegerData) (bData : b.IntegerData)
    (agree : a.agrees b = true) : a.Rearranges b := by
  induction a using Value.induction generalizing b with
  | null => exact eq_of_agrees aData bData rfl agree ▸ .refl
  | bool p => exact eq_of_agrees aData bData rfl agree ▸ .refl
  | number n => exact eq_of_agrees aData bData rfl agree ▸ .refl
  | string s => exact eq_of_agrees aData bData rfl agree ▸ .refl
  | array xs ih =>
    obtain ⟨ys, rfl, length, agree⟩ := array_agrees_iff.1 agree
    have xEach := integerData_array_iff.1 aData
    have yEach := integerData_array_iff.1 bData
    refine rearranges_of_rel array (fun perm => .single (.items perm))
      (fun before after => Rearranges.item before after)
      ((paired_of_agreesItems length agree).mono fun x xMember y yMember => ?_)
    exact ih x xMember (xEach x xMember) (yEach y yMember)
  | object xs ih =>
    obtain ⟨ys, rfl, length, covered⟩ := object_agrees_iff.1 agree
    obtain ⟨xDistinct, xEach⟩ := integerData_object_iff.1 aData
    obtain ⟨yDistinct, yEach⟩ := integerData_object_iff.1 bData
    refine rearranges_of_rel object (fun perm => .single (.fields perm)) ?_
      (rel_of_covered xDistinct yDistinct length (r := Rearranges) ?_)
    · rintro before after ⟨key, x⟩ ⟨_, y⟩ ⟨rfl, path⟩
      exact path.field before after key
    · intro entry member
      obtain ⟨y, found, agree⟩ := covered entry member
      refine ⟨y, found, ih entry member (xEach entry member) ?_ agree⟩
      exact yEach _ (Keyed.mem_of_get? found)

-- On documents whose numbers are whole numbers of the signed range, two agree just when one is the
-- other in another order, and agreement is an equivalence.
theorem agreement_is_rearrangement :
    (∀ {a b : Value}, a.IntegerData → b.IntegerData → (a.agrees b = true ↔ a.Rearranges b)) ∧
      Equivalence fun a b : { v : Value // v.IntegerData } => a.1.agrees b.1 = true := by
  constructor
  · exact fun aData bData => ⟨rearranges_of_agrees aData bData, agrees_of_rearranges aData⟩
  · constructor
    · exact fun a => agrees_self a.2.keyed
    · exact fun {a b} agree => agrees_symm a.2.keyed b.2.keyed ▸ agree
    · exact fun {a b c} => agrees_trans a.2 b.2 c.2

theorem agreement_is_rearrangement_for_teams :
    let one : Value := .number (.int 1 (by decide))
    let two : Value := .number (.int 2 (by decide))
    let a : Value := .object [("teams", .array [one, .array [two, one, two], two]), ("boss", .null)]
    let b : Value := .object [("boss", .null), ("teams", .array [.array [two, two, one], two, one])]
    let c : Value := .object [("boss", .null), ("teams", .array [.array [two, one, one], two, one])]
    a.Rearranges b ∧ ¬ a.Rearranges c := by
  intro one two a b c
  have oneData : one.IntegerData := ⟨trivial, .number rfl⟩
  have twoData : two.IntegerData := ⟨trivial, .number rfl⟩
  have nullData : null.IntegerData := ⟨trivial, .null⟩
  have aData : a.IntegerData := by
    simp [a, integerData_object_iff, integerData_array_iff, Keyed.Distinct, oneData, twoData,
      nullData]
  have bData : b.IntegerData := by
    simp [b, integerData_object_iff, integerData_array_iff, Keyed.Distinct, oneData, twoData,
      nullData]
  have cData : c.IntegerData := by
    simp [c, integerData_object_iff, integerData_array_iff, Keyed.Distinct, oneData, twoData,
      nullData]
  obtain ⟨criterion, _⟩ := agreement_is_rearrangement
  refine ⟨(criterion aData bData).1 (by decide +kernel), fun path => ?_⟩
  exact absurd ((criterion aData cData).2 path) (by decide +kernel)

end Value

end RecordSync
