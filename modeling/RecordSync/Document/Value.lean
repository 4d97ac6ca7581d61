import RecordSync.Keyed

set_option autoImplicit false

namespace RecordSync

inductive Number where
  | int (value : Int) (inRange : -0x8000000000000000 ≤ value ∧ value < 0x10000000000000000)
  | float (value : Float) (finite : value.isFinite = true)
  deriving DecidableEq

namespace Number

def ofInt? (n : Int) : Option Number :=
  if h : -0x8000000000000000 ≤ n ∧ n < 0x10000000000000000 then some (.int n h) else none

def ofFloat? (f : Float) : Option Number :=
  if h : f.isFinite = true then some (.float f h) else none

def asFloat : Number → Float
  | .int n _ => Float.ofInt n
  | .float f _ => f

def asInt64? : Number → Option Int
  | .int n _ => if n < 0x8000000000000000 then some n else none
  | .float _ _ => none

end Number

inductive Value where
  | null
  | bool (b : Bool)
  | number (n : Number)
  | string (s : String)
  | array (items : List Value)
  | object (fields : List (String × Value))

abbrev Record := Keyed Value

namespace Value

instance : Inhabited Value := ⟨.null⟩

mutual

def decEq : (a b : Value) → Decidable (a = b)
  | .null, .null => isTrue rfl
  | .bool a, .bool b => if h : a = b then isTrue (h ▸ rfl) else isFalse (by simp [h])
  | .number a, .number b => if h : a = b then isTrue (h ▸ rfl) else isFalse (by simp [h])
  | .string a, .string b => if h : a = b then isTrue (h ▸ rfl) else isFalse (by simp [h])
  | .array a, .array b =>
    match decEqItems a b with
    | isTrue h => isTrue (h ▸ rfl)
    | isFalse h => isFalse (by simp [h])
  | .object a, .object b =>
    match decEqFields a b with
    | isTrue h => isTrue (h ▸ rfl)
    | isFalse h => isFalse (by simp [h])
  | .null, .bool _ | .null, .number _ | .null, .string _ | .null, .array _ | .null, .object _
  | .bool _, .null | .bool _, .number _ | .bool _, .string _ | .bool _, .array _ | .bool _, .object _
  | .number _, .null | .number _, .bool _ | .number _, .string _ | .number _, .array _
  | .number _, .object _
  | .string _, .null | .string _, .bool _ | .string _, .number _ | .string _, .array _
  | .string _, .object _
  | .array _, .null | .array _, .bool _ | .array _, .number _ | .array _, .string _
  | .array _, .object _
  | .object _, .null | .object _, .bool _ | .object _, .number _ | .object _, .string _
  | .object _, .array _ => isFalse (by simp)

def decEqItems : (a b : List Value) → Decidable (a = b)
  | [], [] => isTrue rfl
  | [], _ :: _ | _ :: _, [] => isFalse (by simp)
  | x :: xs, y :: ys =>
    match decEq x y, decEqItems xs ys with
    | isTrue h, isTrue t => isTrue (h ▸ t ▸ rfl)
    | isFalse h, _ => isFalse (by simp [h])
    | _, isFalse t => isFalse (by simp [t])

def decEqFields : (a b : List (String × Value)) → Decidable (a = b)
  | [], [] => isTrue rfl
  | [], _ :: _ | _ :: _, [] => isFalse (by simp)
  | (k, x) :: xs, (l, y) :: ys =>
    if hk : k = l then
      match decEq x y, decEqFields xs ys with
      | isTrue h, isTrue t => isTrue (hk ▸ h ▸ t ▸ rfl)
      | isFalse h, _ => isFalse (by simp [h])
      | _, isFalse t => isFalse (by simp [t])
    else isFalse (by simp [hk])

end

instance : DecidableEq Value := decEq

def ofInt (n : Int) : Value :=
  match Number.ofInt? n with
  | some n => .number n
  | none => .null

def ofNat (n : Nat) : Value := ofInt n

def ofFloat (f : Float) : Value :=
  match Number.ofFloat? f with
  | some n => .number n
  | none => .null

def ofStrings (xs : List String) : Value := .array (xs.map .string)

def ofText? : Option String → Value
  | some s => .string s
  | none => .null

def isNull : Value → Bool
  | .null => true
  | _ => false

def isArray : Value → Bool
  | .array _ => true
  | _ => false

def isContainer : Value → Bool
  | .array _ | .object _ => true
  | _ => false

def isEmpty : Value → Bool
  | .null => true
  | .string s => s.isEmpty
  | .array items => items.isEmpty
  | _ => false

def isTruthy : Value → Bool
  | .null => false
  | .bool b => b
  | .number n => n.asFloat != 0.0
  | .string s => !s.isEmpty
  | .array items => !items.isEmpty
  | .object fields => !fields.isEmpty

mutual

def depth : Value → Nat
  | .array items => depthItems items + 1
  | .object fields => depthFields fields + 1
  | _ => 0

def depthItems : List Value → Nat
  | [] => 0
  | x :: xs => max x.depth (depthItems xs)

def depthFields : List (String × Value) → Nat
  | [] => 0
  | (_, x) :: xs => max x.depth (depthFields xs)

end

mutual

-- No object of the document names a key twice.
def WellKeyed : Value → Prop
  | .array items => WellKeyedItems items
  | .object fields => Keyed.Distinct fields ∧ WellKeyedFields fields
  | _ => True

def WellKeyedItems : List Value → Prop
  | [] => True
  | x :: xs => x.WellKeyed ∧ WellKeyedItems xs

def WellKeyedFields : List (String × Value) → Prop
  | [] => True
  | (_, x) :: xs => x.WellKeyed ∧ WellKeyedFields xs

end

end Value

end RecordSync
