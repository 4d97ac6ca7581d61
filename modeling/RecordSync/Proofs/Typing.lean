import RecordSync.Attribute.Coercion
import RecordSync.Proofs.Agreement
import RecordSync.Proofs.Declarations

set_option autoImplicit false

namespace RecordSync

namespace Numeral

theorem natWithin_le {bound acc n : Nat} {cs : List Char} (start : acc ≤ bound)
    (read : natWithin bound acc cs = .ok n) : n ≤ bound := by
  induction cs generalizing acc with
  | nil => exact Except.ok.inj read ▸ start
  | cons c cs ih =>
    unfold natWithin at read
    split at read
    · cases read
    · dsimp only at read
      split at read
      · rename_i within
        exact ih within read
      · cases read

theorem nat?_le {bound n : Nat} {cs : List Char} (read : nat? bound cs = .ok n) : n ≤ bound := by
  unfold nat? at read
  split at read
  · cases read
  · cases read
  · exact natWithin_le (Nat.zero_le bound) read
  · exact natWithin_le (Nat.zero_le bound) read

theorem of_toOption_eq_some {ε α : Type} {x : Except ε α} {a : α} (some : x.toOption = some a) :
    x = .ok a := by
  cases x with
  | error e => cases some
  | ok b => exact congrArg Except.ok (Option.some.inj some)

theorem int64?_range {cs : List Char} {n : Int} (read : int64? cs = some n) :
    -0x8000000000000000 ≤ n ∧ n < 0x8000000000000000 := by
  unfold int64? at read
  split at read
  · split at read
    · cases read
    · obtain ⟨m, within, rfl⟩ := Option.map_eq_some_iff.1 read
      have bound := natWithin_le (Nat.zero_le _) (of_toOption_eq_some within)
      simp only [Int.ofNat_eq_natCast]
      omega
  · obtain ⟨m, within, rfl⟩ := Option.map_eq_some_iff.1 read
    have bound := nat?_le (of_toOption_eq_some within)
    simp only [Int.ofNat_eq_natCast]
    omega

end Numeral

inductive Kind.Holds : Kind → Value → Prop
  | string (s : String) : Holds .string (.string s)
  | int (n : Int) (range : -0x8000000000000000 ≤ n ∧ n < 0x10000000000000000)
      (signed : n < 0x8000000000000000) : Holds .int (.number (.int n range))
  | float (f : Float) (finite : f.isFinite = true) : Holds .float (.number (.float f finite))
  | bool (b : Bool) : Holds .bool (.bool b)
  | null : Holds .null .null
  | array (items : List Value) : Holds .array (.array items)
  | binary (s : String) : Holds .binary (.object [(Binary.key, .string s)])

namespace Coercion

theorem wholePart_range (f : Float) :
    -0x8000000000000000 ≤ wholePart f ∧ wholePart f < 0x8000000000000000 :=
  ⟨f.toModel.toInt64.le_toInt, f.toModel.toInt64.toInt_lt⟩

theorem toInt_range {v : Value} {n : Int} (run : toInt v = .ok n) :
    -0x8000000000000000 ≤ n ∧ n < 0x8000000000000000 := by
  unfold toInt at run
  split at run
  · rename_i number
    cases run
    cases number with
    | int m range =>
      by_cases signed : m < 0x8000000000000000
      · simpa [Number.asInt64?, signed] using range.1
      · simpa [Number.asInt64?, signed] using wholePart_range _
    | float f finite => exact wholePart_range f
  · cases run
    split <;> decide
  · dsimp only at run
    split at run
    · rename_i read
      cases run
      exact Numeral.int64?_range read
    · split at run
      · cases run
        exact wholePart_range _
      · cases run
  · cases run

theorem holds_ofInt {n : Int} (range : -0x8000000000000000 ≤ n ∧ n < 0x8000000000000000) :
    Kind.int.Holds (.ofInt n) := by
  have wide : -0x8000000000000000 ≤ n ∧ n < 0x10000000000000000 := by omega
  simp only [Value.ofInt, Number.ofInt?, dif_pos wide]
  exact .int n wide range.2

theorem holds_finite {f : Float} {v : Value} (run : finite f = .ok v) : Kind.float.Holds v := by
  unfold finite Number.ofFloat? at run
  by_cases isFinite : f.isFinite = true
  · rw [dif_pos isFinite] at run
    cases run
    exact .float f isFinite
  · rw [dif_neg isFinite] at run
    cases run

theorem holds_of_isWrapper {v : Value} (wrapper : Binary.isWrapper v = true) :
    Kind.binary.Holds v := by
  unfold Binary.isWrapper Binary.text? at wrapper
  split at wrapper
  · rename_i key s
    by_cases same : key = Binary.key
    · exact same ▸ .binary s
    · rw [if_neg same] at wrapper
      cases wrapper
  · cases wrapper

theorem holds_toBinary {v w : Value} (run : toBinary v = .ok w) : Kind.binary.Holds w := by
  unfold toBinary at run
  split at run
  · rename_i wrapper
    cases run
    exact holds_of_isWrapper wrapper
  · split at run
    · cases run
      exact .binary _
    · obtain ⟨bytes, _, rfl⟩ := Except.map_eq_ok run
      exact .binary _
    · cases run

theorem holds_coerce {kind : Kind} {v w : Value} (run : coerce kind v = .ok w) : kind.Holds w := by
  cases kind with
  | string =>
    cases run
    exact .string _
  | int =>
    obtain ⟨n, whole, rfl⟩ := Except.map_eq_ok run
    exact holds_ofInt (toInt_range whole)
  | float =>
    obtain ⟨f, _, run⟩ := Except.bind_eq_ok run
    exact holds_finite run
  | bool =>
    obtain ⟨b, _, rfl⟩ := Except.map_eq_ok run
    exact .bool b
  | null =>
    cases run
    exact .null
  | array => cases v <;> cases run <;> exact .array _
  | binary => exact holds_toBinary run

theorem wellKeyed_coerce {kind : Kind} {v w : Value} (keyed : v.WellKeyed)
    (run : coerce kind v = .ok w) : w.WellKeyed := by
  have holds := holds_coerce run
  cases holds with
  | binary s => exact Record.WellKeyed.single (Value.wellKeyed_string s)
  | array items =>
    cases v with
    | array _ =>
      cases run
      exact keyed
    | _ =>
      cases run
      rw [Value.wellKeyed_array_iff, List.forall_mem_singleton]
      exact keyed
  | _ => simp

end Coercion

namespace Kind.Holds

variable {kind : Kind} {u v w : Value}

theorem isArray_eq_false (holds : kind.Holds v) (single : kind ≠ .array) : v.isArray = false := by
  cases holds with
  | array items => exact absurd rfl single
  | _ => rfl

-- What values of one type share just when they agree: the place of a float, or else the value.
def standing : Value → Value ⊕ Option Float.Model.UnpackedFloat
  | .number (.float f _) => .inr (Number.place f)
  | v => .inl v

theorem agrees_binary (s t : String) :
    (Value.object [(Binary.key, .string s)]).agrees (.object [(Binary.key, .string t)]) = true ↔
      s = t := by
  simp [Value.agrees, Value.agreesFields]

theorem agrees_iff_standing (single : kind ≠ .array) (uHolds : kind.Holds u)
    (vHolds : kind.Holds v) : u.agrees v = true ↔ standing u = standing v := by
  cases uHolds with
  | string s =>
    cases vHolds
    simp [Value.agrees, standing]
  | int m mRange mSigned =>
    cases vHolds with
    | int n nRange nSigned =>
      simp [Value.agrees, standing, Number.agrees_int_iff mRange nRange mSigned nSigned]
  | float f fFinite =>
    cases vHolds with
    | float g gFinite => simp [Value.agrees, standing, Number.agrees_float_iff]
  | bool b =>
    cases vHolds
    simp [Value.agrees, standing]
  | null =>
    cases vHolds
    exact iff_of_true rfl rfl
  | array items => exact absurd rfl single
  | binary s =>
    cases vHolds
    simp [agrees_binary, standing]

theorem agrees_trans (single : kind ≠ .array) (uHolds : kind.Holds u) (vHolds : kind.Holds v)
    (wHolds : kind.Holds w) (first : u.agrees v = true) (second : v.agrees w = true) :
    u.agrees w = true := by
  rw [agrees_iff_standing single uHolds vHolds] at first
  rw [agrees_iff_standing single vHolds wHolds] at second
  rw [agrees_iff_standing single uHolds wHolds]
  exact first.trans second

end Kind.Holds

end RecordSync
