import RecordSync.Filter
import RecordSync.Proofs.Agreement

set_option autoImplicit false

namespace RecordSync

namespace Value

theorem sameFields_iff (xs ys : Record) :
    sameFields xs ys = true ↔
      ∀ entry ∈ xs, ∃ y, Keyed.get? entry.1 ys = some y ∧ entry.2.same y = true := by
  induction xs with
  | nil => simp [sameFields]
  | cons entry rest ih =>
    obtain ⟨k, x⟩ := entry
    simp only [sameFields, Bool.and_eq_true, ih, List.forall_mem_cons]
    cases Keyed.get? k ys <;> simp

theorem sameItems_self {items : List Value} (each : ∀ item ∈ items, item.same item = true) :
    sameItems items items = true := by
  induction items with
  | nil => rfl
  | cons item rest ih =>
    obtain ⟨first, later⟩ := List.forall_mem_cons.1 each
    simp [sameItems, first, ih later]

theorem same_self {v : Value} (keyed : v.WellKeyed) : v.same v = true := by
  induction v using Value.induction with
  | null => rfl
  | bool b => simp [same]
  | number n =>
    cases n with
    | int n range => simp [same]
    | float f finite =>
      simpa [same] using (Number.beq_iff_place f f).2 ⟨rfl, Number.place_ne_none_of_finite finite⟩
  | string s => simp [same]
  | array items ih =>
    have each := (wellKeyed_array_iff items).1 keyed
    simpa [same] using sameItems_self fun item member => ih item member (each item member)
  | object fields ih =>
    have covered : sameFields fields fields = true := by
      rw [sameFields_iff]
      intro entry member
      exact ⟨entry.2, Keyed.get?_of_mem (Record.WellKeyed.distinct keyed) member,
        ih entry member (Record.WellKeyed.value keyed member)⟩
    simp [same, covered]

theorem same_object_get? {xs ys : Record} (xDistinct : Keyed.Distinct xs)
    (same : (object xs).same (object ys) = true) {name : String}
    {y : Value} (found : Keyed.get? name ys = some y) :
    ∃ x, Keyed.get? name xs = some x ∧ x.same y = true := by
  simp only [Value.same, Bool.and_eq_true, beq_iff_eq, sameFields_iff] at same
  obtain ⟨length, fields⟩ := same
  have sameKeys := Keyed.perm_keys xDistinct length fun entry member =>
    (fields entry member).imp fun _ => And.left
  have listed : name ∈ Keyed.keys xs :=
    sameKeys.mem_iff.2 (Keyed.mem_keys_of_mem (Keyed.mem_of_get? found))
  obtain ⟨⟨key, x⟩, member, rfl⟩ := List.mem_map.1 listed
  obtain ⟨z, there, holds⟩ := fields (key, x) member
  have unique : z = y := Option.some.inj (there.symm.trans found)
  exact ⟨x, Keyed.get?_of_mem xDistinct member, unique ▸ holds⟩

theorem agreesItems_congr {xs ys : List Value} (same : sameItems xs ys = true)
    (each : ∀ x ∈ xs, ∀ y ∈ ys, x.same y = true → ∀ v, x.agrees v = y.agrees v)
    (vs : List Value) : xs.length = ys.length ∧ agreesItems xs vs = agreesItems ys vs := by
  induction xs generalizing ys vs with
  | nil =>
    cases ys with
    | nil => exact ⟨rfl, rfl⟩
    | cons y ys => cases same
  | cons x xs ih =>
    cases ys with
    | nil => cases same
    | cons y ys =>
      simp only [sameItems, Bool.and_eq_true] at same
      have first : (fun v => x.agrees v) = fun v => y.agrees v :=
        funext (each x (by simp) y (by simp) same.1)
      have rest := ih same.2 fun a aMember b bMember =>
        each a (List.mem_cons_of_mem x aMember) b (List.mem_cons_of_mem y bMember)
      refine ⟨by simp [(rest []).1], ?_⟩
      unfold agreesItems
      rw [first]
      split
      · exact (rest _).2
      · rfl

theorem agreesFields_congr {xs ys : Record} (xKeyed : Record.WellKeyed xs)
    (yKeyed : Record.WellKeyed ys) (same : (object xs).same (object ys) = true)
    (each : ∀ entry ∈ xs, ∀ y : Value, y.WellKeyed → entry.2.same y = true →
      ∀ v, entry.2.agrees v = y.agrees v)
    (vs : Record) : agreesFields xs vs = agreesFields ys vs := by
  rw [Bool.eq_iff_iff, agreesFields_iff, agreesFields_iff]
  constructor
  · intro covered entry member
    obtain ⟨x, found, holds⟩ := same_object_get? xKeyed.distinct same
      (Keyed.get?_of_mem yKeyed.distinct member)
    obtain ⟨z, there, agree⟩ := covered _ (Keyed.mem_of_get? found)
    have congr := each _ (Keyed.mem_of_get? found) entry.2 (yKeyed.value member) holds z
    exact ⟨z, there, congr ▸ agree⟩
  · intro covered entry member
    simp only [Value.same, Bool.and_eq_true, sameFields_iff] at same
    obtain ⟨y, found, holds⟩ := same.2 entry member
    obtain ⟨z, there, agree⟩ := covered _ (Keyed.mem_of_get? found)
    have congr := each entry member y (yKeyed.get? found) holds z
    exact ⟨z, there, congr.symm ▸ agree⟩

theorem agrees_congr {u w : Value} (uKeyed : u.WellKeyed) (wKeyed : w.WellKeyed)
    (same : u.same w = true) (v : Value) : u.agrees v = w.agrees v := by
  induction u using Value.induction generalizing w v with
  | null => cases w <;> simp_all [Value.same]
  | bool b => cases w <;> simp_all [Value.same]
  | number m =>
    cases w with
    | number n =>
      cases m with
      | int m mRange => cases n <;> simp_all [Value.same]
      | float f fFinite =>
        cases n with
        -- What is written as a float is never the same as an integer, though they may agree.
        | int n nRange => simp [Value.same] at same
        | float g gFinite =>
          have place := ((Number.beq_iff_place f g).1 same).1
          cases v with
          | number k =>
            simpa [agrees] using Number.agrees_congr_of_place fFinite gFinite place k
          | _ => simp [agrees]
    | _ => cases m <;> simp [Value.same] at same
  | string s => cases w <;> simp_all [Value.same]
  | array xs ih =>
    cases w with
    | array ys =>
      have xEach := (wellKeyed_array_iff xs).1 uKeyed
      have yEach := (wellKeyed_array_iff ys).1 wKeyed
      simp only [Value.same] at same
      have items := agreesItems_congr same fun x xMember y yMember holds =>
        ih x xMember (xEach x xMember) (yEach y yMember) holds
      cases v with
      | array vs => simp [agrees, (items vs).1, (items vs).2]
      | _ => simp [agrees]
    | _ => simp [Value.same] at same
  | object xs ih =>
    cases w with
    | object ys =>
      have length : xs.length = ys.length := by
        simp only [Value.same, Bool.and_eq_true, beq_iff_eq] at same
        exact same.1
      cases v with
      | object vs =>
        have fields := agreesFields_congr uKeyed wKeyed same
          (fun entry member y keyed holds z =>
            ih entry member (Record.WellKeyed.value uKeyed member) keyed holds z) vs
        simp [agrees, length, fields]
      | _ => simp [agrees]
    | _ => simp [Value.same] at same

theorem isArray_eq_of_same {u w : Value} (same : u.same w = true) : u.isArray = w.isArray := by
  cases u with
  | number n => cases n <;> cases w <;> first | rfl | cases same
  | _ => cases w <;> first | rfl | cases same

theorem containedIn_congr {xs ys : List Value} (xKeyed : (array xs).WellKeyed)
    (yKeyed : (array ys).WellKeyed) (same : (array xs).same (array ys) = true) (needle : Value) :
    needle.containedIn xs = needle.containedIn ys := by
  rw [wellKeyed_array_iff] at xKeyed yKeyed
  simp only [Value.same] at same
  induction xs generalizing ys with
  | nil =>
    cases ys with
    | nil => rfl
    | cons y ys => cases same
  | cons x xs ih =>
    cases ys with
    | nil => cases same
    | cons y ys =>
      simp only [sameItems, Bool.and_eq_true] at same
      rw [List.forall_mem_cons] at xKeyed yKeyed
      have rest := ih xKeyed.2 yKeyed.2 same.2
      unfold containedIn at *
      rw [List.any_cons, List.any_cons, agrees_congr xKeyed.1 yKeyed.1 same.1, rest]

end Value

theorem Filter.meets_of_not_array {found : Value} (single : found.isArray = false)
    (wanted : Value) : meets wanted found = found.agrees wanted := by
  cases found with
  | array items => cases single
  | _ => rfl

theorem Filter.meets_congr {u w : Value} (uKeyed : u.WellKeyed) (wKeyed : w.WellKeyed)
    (same : u.same w = true) (wanted : Value) : meets wanted u = meets wanted w := by
  have whole := Value.agrees_congr uKeyed wKeyed same wanted
  have shape := Value.isArray_eq_of_same same
  cases u with
  | array xs =>
    cases w with
    | array ys =>
      unfold meets
      dsimp only
      rw [whole, Value.containedIn_congr uKeyed wKeyed same wanted]
    | _ => cases shape
  | _ => rw [meets_of_not_array rfl, meets_of_not_array shape.symm, whole]

end RecordSync
