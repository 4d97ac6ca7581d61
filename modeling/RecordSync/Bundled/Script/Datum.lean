import RecordSync.Document.Value
import RecordSync.Number.Layout
import RecordSync.Limits
import RecordSync.Text.Quoted

set_option autoImplicit false

namespace RecordSync.Script

inductive Datum where
  | unit
  | bool (b : Bool)
  | int (n : Int)
  | float (f : Float)
  | char (c : Char)
  | string (s : String)
  | array (items : List Datum)
  | map (fields : List (String × Datum))
  | range (first last : Int) (closed : Bool)

structure Sizes where
  items : Nat
  fields : Nat
  bytes : Nat
  deriving DecidableEq, Repr

namespace Sizes

def zero : Sizes := ⟨0, 0, 0⟩

def add (a b : Sizes) : Sizes := ⟨a.items + b.items, a.fields + b.fields, a.bytes + b.bytes⟩

def within (limit n : Nat) : Bool := limit = 0 || n ≤ limit

def fits (limits : Limits) (s : Sizes) : Bool :=
  within limits.maxStringSize s.bytes && within limits.maxArraySize s.items &&
    within limits.maxMapSize s.fields

end Sizes

namespace Datum

instance : Inhabited Datum := ⟨.unit⟩

mutual

def ofValue : Value → Datum
  | .null => .unit
  | .bool b => .bool b
  | .number n =>
    match n.asInt64? with
    | some n => .int n
    | none => .float n.asFloat
  | .string s => .string s
  | .array items => .array (ofItems items)
  | .object fields => .map (ofFields fields)

def ofItems : List Value → List Datum
  | [] => []
  | x :: xs => ofValue x :: ofItems xs

def ofFields : List (String × Value) → List (String × Datum)
  | [] => []
  | (k, x) :: xs => Keyed.insertSorted k (ofValue x) (ofFields xs)

end

mutual

def toValue? : Datum → Option Value
  | .unit => some .null
  | .bool b => some (.bool b)
  | .int n => some (.ofInt n)
  | .float f => some (.ofFloat f)
  | .char c => some (.string c.toString)
  | .string s => some (.string s)
  | .array items => (toItems? items).map .array
  | .map fields => (toFields? fields).map .object
  | .range _ _ _ => none

def toItems? : List Datum → Option (List Value)
  | [] => some []
  | x :: xs => do return (← x.toValue?) :: (← toItems? xs)

def toFields? : List (String × Datum) → Option (List (String × Value))
  | [] => some []
  | (k, x) :: xs => do return (k, ← x.toValue?) :: (← toFields? xs)

end

def nestedFloat : Layout := ⟨fun e => -4 ≤ e && e ≤ 15, true, false⟩

-- The magnitudes beyond which a number is shown with an exponent.
def floatRange : Float × Float := (9.9999998245167e-14, 9999999827968.0)

def floatText (f : Float) : String :=
  if f == 0.0 then "0.0"
  else if floatRange.2 < f.abs || f.abs < floatRange.1 then Layout.scientific.render f
  else Layout.pointed.render f

def charText (c : Char) : String :=
  let body := if c = '\'' then ['\\', '\''] else if c = '"' then ['"'] else Text.quotedChar c
  "'" ++ String.ofList body ++ "'"

mutual

def inspect : Datum → String
  | .unit => "()"
  | .bool b => toString b
  | .int n => toString n
  | .float f => nestedFloat.render f
  | .char c => charText c
  | .string s => Text.quoted s
  | .array items => "[" ++ inspectItems items ++ "]"
  | .map fields => "#\x7b" ++ inspectFields fields ++ "\x7d"
  | .range first last closed => s!"{first}.." ++ (if closed then "=" else "") ++ s!"{last}"

def inspectItems : List Datum → String
  | [] => ""
  | [x] => x.inspect
  | x :: xs => x.inspect ++ ", " ++ inspectItems xs

def inspectFields : List (String × Datum) → String
  | [] => ""
  | [(k, x)] => Text.quoted k ++ ": " ++ x.inspect
  | (k, x) :: xs => Text.quoted k ++ ": " ++ x.inspect ++ ", " ++ inspectFields xs

end

def display : Datum → String
  | .unit => ""
  | .float f => floatText f
  | .char c => c.toString
  | .string s => s
  | other => other.inspect

mutual

def sizes : Datum → Sizes
  | .string s => ⟨0, 0, s.utf8ByteSize⟩
  | .array items => itemSizes items
  | .map fields => fieldSizes fields
  | _ => .zero

def itemSizes : List Datum → Sizes
  | [] => .zero
  | x :: xs => (x.sizes.add ⟨1, 0, 0⟩).add (itemSizes xs)

def fieldSizes : List (String × Datum) → Sizes
  | [] => .zero
  | (_, x) :: xs => (x.sizes.add ⟨0, 1, 0⟩).add (fieldSizes xs)

end

def isUnit : Datum → Bool
  | .unit => true
  | _ => false

def typeName : Datum → String
  | .unit => "()"
  | .bool _ => "bool"
  | .int _ => "i64"
  | .float _ => "f64"
  | .char _ => "char"
  | .string _ => "string"
  | .array _ => "array"
  | .map _ => "map"
  | .range _ _ closed => if closed then "range=" else "range"

def isEmpty : Datum → Bool
  | .unit => true
  | .string s => s.isEmpty
  | _ => false

end Datum

end RecordSync.Script
