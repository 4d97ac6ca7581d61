import RecordSync.Bundled.Script.Remainder
import RecordSync.Bundled.Script.Datum
import RecordSync.Bundled.Text.Pieces

set_option autoImplicit false

namespace RecordSync.Script

inductive Arithmetic where
  | add
  | subtract
  | multiply
  | divide
  | modulo
  | power
  | shiftLeft
  | shiftRight
  | bitAnd
  | bitOr
  | bitXor
  deriving DecidableEq, Repr

inductive Comparison where
  | equal
  | unequal
  | less
  | atMost
  | greater
  | atLeast
  deriving DecidableEq, Repr

namespace Datum

def checkedInt (n : Int) : Option Datum :=
  if -0x8000000000000000 ≤ n ∧ n < 0x8000000000000000 then some (.int n) else none

def signed (bits : Nat) : Int :=
  let n := bits % 0x10000000000000000
  if n < 0x8000000000000000 then n else (n : Int) - 0x10000000000000000

def bitsOf (n : Int) : Nat := (n.emod 0x10000000000000000).toNat

def power (a b : Int) : Option Datum :=
  if b < 0 then none
  else if a.natAbs ≤ 1 then some (.int (if a = -1 && b % 2 = 0 then 1 else if b = 0 then 1 else a))
  else if 63 < b then none
  else checkedInt (Int.pow a b.toNat)

def shift (n places : Int) : Int :=
  if 0 ≤ places then if places < 64 then signed (bitsOf n <<< places.toNat) else 0
  else if -64 < places then n / Nat.pow 2 places.natAbs
  else if n < 0 then -1 else 0

def arithmeticInt (op : Arithmetic) (a b : Int) : Option Datum :=
  match op with
  | .add => checkedInt (a + b)
  | .subtract => checkedInt (a - b)
  | .multiply => checkedInt (a * b)
  | .divide => if b = 0 then none else checkedInt (a.tdiv b)
  | .modulo => if b = 0 || (b = -1 && a = -0x8000000000000000) then none else checkedInt (a.tmod b)
  | .power => power a b
  | .shiftLeft => some (.int (shift a b))
  | .shiftRight => some (.int (shift a (-b)))
  | .bitAnd => some (.int (signed (bitsOf a &&& bitsOf b)))
  | .bitOr => some (.int (signed (bitsOf a ||| bitsOf b)))
  | .bitXor => some (.int (signed (bitsOf a ^^^ bitsOf b)))

def arithmeticFloat (op : Arithmetic) (a b : Float) : Option Float :=
  match op with
  | .add => some (a + b)
  | .subtract => some (a - b)
  | .multiply => some (a * b)
  | .divide => some (a / b)
  | .modulo => some (Number.remainder a b)
  | .power => some (a.pow b)
  | _ => none

def arithmeticBool (op : Arithmetic) (a b : Bool) : Option Bool :=
  match op with
  | .bitAnd => some (a && b)
  | .bitOr => some (a || b)
  | .bitXor => some (a != b)
  | _ => none

def concat : Datum → Datum → Option Datum
  | .string s, b => some (.string (s ++ b.display))
  | a, .string s => some (.string (a.display ++ s))
  | .char a, .char b => some (.string (a.toString ++ b.toString))
  | .array a, .array b => some (.array (a ++ b))
  | .map a, .map b => some (.map (b.foldl (fun acc (k, v) => Keyed.insertSorted k v acc) a))
  | _, _ => none

def without : Datum → Datum → Option Datum
  | .string s, .string part => some (.string (Text.substitute part "" s))
  | .string s, .char part => some (.string (Text.substitute part.toString "" s))
  | _, _ => none

def arithmetic (op : Arithmetic) (a b : Datum) : Option Datum :=
  match a, b with
  | .int a, .int b => arithmeticInt op a b
  | .int a, .float b => (arithmeticFloat op (Float.ofInt a) b).map .float
  | .float a, .int b => (arithmeticFloat op a (Float.ofInt b)).map .float
  | .float a, .float b => (arithmeticFloat op a b).map .float
  | .bool a, .bool b => (arithmeticBool op a b).map .bool
  | a, b =>
    match op with
    | .add => concat a b
    | .subtract => without a b
    | _ => none

-- What an assignment with an operator puts in place of `a`. An array takes a value of another type
-- as one more element.
def accumulate (op : Arithmetic) (a b : Datum) : Option Datum :=
  match op, a, b with
  | .add, .array a, .array b => some (.array (a ++ b))
  | .add, .array a, b => some (.array (a ++ [b]))
  | op, a, b => arithmetic op a b

def addsNothing : Datum → Datum → Bool
  | .array a, .array b => a.isEmpty || b.isEmpty
  | .map a, .map b => a.isEmpty || b.isEmpty
  | _, _ => false

def bounded (limits : Limits) (op : Arithmetic) (a b : Datum) (value : Option Datum) :
    Option Datum :=
  value.filter fun x => op != .add || addsNothing a b || x.sizes.fits limits

mutual

def equals : Datum → Datum → Bool
  | .unit, .unit => true
  | .bool a, .bool b => a == b
  | .int a, .int b => a == b
  | .int a, .float b => Float.ofInt a == b
  | .float a, .int b => a == Float.ofInt b
  | .float a, .float b => a == b
  | .char a, .char b => a == b
  | .char a, .string b => a.toString == b
  | .string a, .char b => a == b.toString
  | .string a, .string b => a == b
  | .array a, .array b => equalItems a b
  | .map a, .map b => equalFields a b
  | .range a b closed, .range c d closed' => a == c && b == d && closed == closed'
  | _, _ => false

def equalItems : List Datum → List Datum → Bool
  | [], [] => true
  | x :: xs, y :: ys => x.equals y && equalItems xs ys
  | _, _ => false

def equalFields : List (String × Datum) → List (String × Datum) → Bool
  | [], [] => true
  | (k, x) :: xs, (l, y) :: ys => k == l && x.equals y && equalFields xs ys
  | _, _ => false

end

def orderMeets (op : Comparison) (o : Ordering) : Bool :=
  match op with
  | .equal => o == .eq
  | .unequal => o != .eq
  | .less => o == .lt
  | .atMost => o != .gt
  | .greater => o == .gt
  | .atLeast => o != .lt

def compareFloat (op : Comparison) (a b : Float) : Bool :=
  match op with
  | .equal => a == b
  | .unequal => a != b
  | .less => a < b
  | .atMost => a ≤ b
  | .greater => a > b
  | .atLeast => a ≥ b

def compare (op : Comparison) (a b : Datum) : Option Bool :=
  match op, a, b with
  | .equal, a, b => some (a.equals b)
  | .unequal, a, b => some (!a.equals b)
  | _, .array _, .array _ | _, .map _, .map _ => none
  | op, .int a, .int b => some (orderMeets op (Ord.compare a b))
  | op, .int a, .float b => some (compareFloat op (Float.ofInt a) b)
  | op, .float a, .int b => some (compareFloat op a (Float.ofInt b))
  | op, .float a, .float b => some (compareFloat op a b)
  | op, .bool a, .bool b => some (orderMeets op (Ord.compare a b))
  | op, .string a, .string b => some (orderMeets op (Ord.compare a b))
  | op, .char a, .char b => some (orderMeets op (Ord.compare a b))
  | op, .char a, .string b => some (orderMeets op (Ord.compare a.toString b))
  | op, .string a, .char b => some (orderMeets op (Ord.compare a b.toString))
  | _, _, _ => some false

def occursIn (part text : List Char) : Bool :=
  match text with
  | [] => part.isEmpty
  | c :: cs => part.isPrefixOf (c :: cs) || occursIn part cs

def holds (container x : Datum) : Option Bool :=
  match container, x with
  | .array items, x => some (items.any fun item => item.equals x)
  | .map fields, .string key => some (Keyed.contains key fields)
  | .string s, .string part => some (occursIn part.toList s.toList)
  | .string s, .char c => some (s.toList.contains c)
  | .range first last closed, .int n =>
    some (decide (first ≤ n) && if closed then decide (n ≤ last) else decide (n < last))
  | _, _ => none

def negate : Datum → Option Datum
  | .int n => checkedInt (-n)
  | .float f => some (.float (-f))
  | _ => none

def affirm : Datum → Option Datum
  | .int n => some (.int n)
  | .float f => some (.float f)
  | _ => none

def position? (length : Nat) (n : Int) : Option Nat :=
  if 0 ≤ n then if n < length then some n.toNat else none
  else if n.natAbs ≤ length then some (length - n.natAbs) else none

def index? (container place : Datum) : Option Datum :=
  match container, place with
  | .array items, .int n => (position? items.length n).bind fun i => items[i]?
  | .map fields, .string key => some ((Keyed.get? key fields).getD .unit)
  | .string s, .int n => (position? s.length n).bind fun i => s.toList[i]?.map .char
  | .int value, .int n => (position? 64 n).map fun i => .bool ((bitsOf value).testBit i)
  | _, _ => none

def replace? (container place part : Datum) : Option Datum :=
  match container, place, part with
  | .array items, .int n, x => (position? items.length n).map fun i => .array (items.set i x)
  | .map fields, .string key, x => some (.map (Keyed.insertSorted key x fields))
  | .string s, .int n, .char c =>
    (position? s.length n).map fun i => .string (String.ofList (s.toList.set i c))
  | .int value, .int n, .bool b =>
    (position? 64 n).map fun i =>
      let bits := bitsOf value
      let bit := Nat.pow 2 i
      .int (signed (if bits.testBit i = b then bits else if b then bits + bit else bits - bit))
  | _, _, _ => none

end Datum

end RecordSync.Script
