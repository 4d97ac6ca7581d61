import RecordSync.Bundled.Script.Operator
import RecordSync.Text.Blank
import RecordSync.Bundled.Text.Case
import RecordSync.Bundled.Text.Pieces

set_option autoImplicit false

namespace RecordSync.Script

namespace Function

def texts (xs : List String) : Datum := .array (xs.map .string)

def splitAt (s : String) (n : Int) : Datum :=
  let cs := s.toList
  let i := if n ≤ 0 then cs.length - n.natAbs else n.toNat
  texts [String.ofList (cs.take i), String.ofList (cs.drop i)]

def offset (length : Nat) (n : Int) : Nat :=
  if n < 0 then length - n.natAbs else min n.toNat length

def part {α : Type} (xs : List α) (start count : Int) : List α :=
  (xs.drop (offset xs.length start)).take count.toNat

def indexIn (piece : List Char) : List Char → Option Nat
  | [] => if piece.isEmpty then some 0 else none
  | c :: cs =>
    if piece.isPrefixOf (c :: cs) then some 0 else (indexIn piece cs).map fun n => n + 1

def place (i : Option Nat) : Datum := .int ((i.map Int.ofNat).getD (-1))

def alike : Datum → Datum → Datum × Datum
  | .int a, .float b => (.float (Float.ofInt a), .float b)
  | .float a, .int b => (.float a, .float (Float.ofInt b))
  | a, b => (a, b)

def isOrdered : Datum → Bool
  | .int _ | .float _ | .string _ | .char _ => true
  | _ => false

def preferred (op : Comparison) (a b : Datum) : Option Datum :=
  let (x, y) := alike a b
  if isOrdered x && isOrdered y && x.typeName = y.typeName then
    (Datum.compare op x y).map fun takes => if takes then x else y
  else none

def whole (f : Float) : Float := if f < 0.0 then f.ceil else f.floor

def wholeRange : Float := 9223372036854775808.0

def toInt? : Datum → Option Datum
  | .int n => some (.int n)
  | .float f =>
    if f > wholeRange || f < -wholeRange then none
    else some (.int (whole f).toInt64.toInt)
  | .char c => some (.int c.toNat)
  | _ => none

def parsed? (name : String) (s : String) : Option Datum :=
  let cs := (Text.trim s).toList
  match name with
  | "parse_int" => (Numeral.int64? cs).map .int
  | _ => (Numeral.float? cs).map .float

def ofNumber? (name : String) : Datum → Option Datum
  | .int n =>
    match name with
    | "abs" => Datum.checkedInt n.natAbs
    | "sign" => some (.int n.sign)
    | "is_odd" => some (.bool (n % 2 != 0))
    | "is_even" => some (.bool (n % 2 == 0))
    | "is_zero" => some (.bool (n == 0))
    | "to_float" => some (.float (Float.ofInt n))
    | _ => none
  | .float f =>
    match name with
    | "abs" => some (.float f.abs)
    | "sign" =>
      if f.isNaN then none else some (.int (if f < 0.0 then -1 else if f > 0.0 then 1 else 0))
    | "is_zero" => some (.bool (f == 0.0))
    | "floor" => some (.float f.floor)
    | "ceiling" => some (.float f.ceil)
    | "round" => some (.float f.round)
    | "int" => some (.float (whole f))
    | "fraction" => some (.float (f - whole f))
    | "sqrt" => some (.float f.sqrt)
    | "is_nan" => some (.bool f.isNaN)
    | "is_finite" => some (.bool f.isFinite)
    | "is_infinite" => some (.bool f.isInf)
    | "to_float" => some (.float f)
    | _ => none
  | _ => none

def result? (name : String) (args : List Datum) : Option Datum :=
  match name, args with
  | "lowercase", [.string s] | "to_lower", [.string s] => some (.string (Text.lowercase s))
  | "uppercase", [.string s] | "to_upper", [.string s] => some (.string (Text.uppercase s))
  | "trim", [.string s] => some (.string (Text.trim s))
  | "concat2", [.string a, .string b] => some (.string (a ++ b))
  | "split", [.string s, .string sep] => some (texts (Text.pieces sep s))
  | "split", [.string s, .char sep] => some (texts (Text.pieces sep.toString s))
  | "split", [.string s, .int n] => some (splitAt s n)
  | "split", [.string s] => some (texts ((Text.words Text.isBlank s.toList).map String.ofList))
  | "join", [.array items, .string sep] =>
    some (.string (sep.intercalate (items.map Datum.display)))
  | "replace", [.string s, .string old, .string new] => some (.string (Text.substitute old new s))
  | "default_val", [a, b] | "coalesce2", [a, b] => some (if a.isEmpty then b else a)
  | "array_first", [.array items] => some (items.head?.getD .unit)
  | "array_last", [.array items] => some (items.getLast?.getD .unit)
  | "array_contains", [.array items, x] =>
    some (.bool (items.any fun item => item.display == x.display))
  | "is_null", [x] => some (.bool x.isUnit)
  | "log_info", [.string _] | "log_warn", [.string _] | "log_debug", [.string _] => some .unit
  | "len", [.array items] => some (.int items.length)
  | "len", [.map fields] => some (.int fields.length)
  | "len", [.string s] => some (.int s.length)
  | "is_empty", [.array items] => some (.bool items.isEmpty)
  | "is_empty", [.map fields] => some (.bool fields.isEmpty)
  | "is_empty", [.string s] => some (.bool s.isEmpty)
  | "is_empty", [.range first last closed] =>
    some (.bool (if closed then decide (last < first) else decide (last ≤ first)))
  | "start", [.range first _ _] => some (.int first)
  | "end", [.range _ last _] => some (.int last)
  | "contains", [container, x] => (container.holds x).map .bool
  | "starts_with", [.string s, .string t] => some (.bool (t.toList.isPrefixOf s.toList))
  | "ends_with", [.string s, .string t] => some (.bool (t.toList.isSuffixOf s.toList))
  | "index_of", [.string s, .string t] => some (place (indexIn t.toList s.toList))
  | "index_of", [.string s, .char c] => some (place (indexIn [c] s.toList))
  | "index_of", [.array items, x] => some (place (items.findIdx? fun item => item.equals x))
  | "sub_string", [.string s, .int start] =>
    some (.string (String.ofList (part s.toList start s.length)))
  | "sub_string", [.string s, .int start, .int count] =>
    some (.string (String.ofList (part s.toList start count)))
  | "extract", [.array items, .int start] => some (.array (part items start items.length))
  | "extract", [.array items, .int start, .int count] => some (.array (part items start count))
  | "get", [.array items, .int n] => some ((Datum.index? (.array items) (.int n)).getD .unit)
  | "get", [.map fields, .string key] => some ((Keyed.get? key fields).getD .unit)
  | "keys", [.map fields] => some (texts (Keyed.keys fields))
  | "values", [.map fields] => some (.array (fields.map Prod.snd))
  | "to_chars", [.string s] => some (.array (s.toList.map .char))
  | "to_string", [x] => some (.string x.display)
  | "to_debug", [x] => some (.string x.inspect)
  | "type_of", [x] => some (.string x.typeName)
  | "min", [a, b] => preferred .less a b
  | "max", [a, b] => preferred .greater a b
  | "to_int", [x] => toInt? x
  | "parse_int", [.string s] | "parse_float", [.string s] => parsed? name s
  | _, [x] => ofNumber? name x
  | _, _ => none

def change? (name : String) (args : List Datum) : Option (Datum × Datum) :=
  match name, args with
  | "push", [.array items, x] => some (.array (items ++ [x]), .unit)
  | "append", [.array items, .array more] => some (.array (items ++ more), .unit)
  | "pop", [.array items] => some (.array items.dropLast, items.getLast?.getD .unit)
  | "shift", [.array items] => some (.array (items.drop 1), items.head?.getD .unit)
  | "insert", [.array items, .int n, x] =>
    let i := offset items.length n
    some (.array (items.take i ++ x :: items.drop i), .unit)
  | "remove", [.array items, .int n] =>
    match Datum.position? items.length n with
    | some i => some (.array (items.eraseIdx i), items[i]?.getD .unit)
    | none => some (.array items, .unit)
  | "remove", [.map fields, .string key] =>
    some (.map (Keyed.erase key fields), (Keyed.get? key fields).getD .unit)
  | "truncate", [.array items, .int n] => some (.array (items.take n.toNat), .unit)
  | "reverse", [.array items] => some (.array items.reverse, .unit)
  | "clear", [.array _] => some (.array [], .unit)
  | "clear", [.map _] => some (.map [], .unit)
  | "clear", [.string _] => some (.string "", .unit)
  | "make_lower", [.string s] => some (.string (Text.lowercase s), .unit)
  | "make_upper", [.string s] => some (.string (Text.uppercase s), .unit)
  | "replace", [.string s, .char old, .char new] =>
    some (.string (Text.substitute old.toString new.toString s), .unit)
  | _, _ => none

def fields : List String :=
  ["len", "is_empty", "start", "end", "is_odd", "is_even", "is_zero", "floor", "ceiling", "round",
    "int", "fraction", "is_nan", "is_finite", "is_infinite"]

-- Functions that take a copy of a container. All others take the one that a variable holds, and
-- refuse one beyond the limits.
def copying : List String :=
  ["join", "default_val", "coalesce2", "array_first", "array_last", "array_contains", "is_null",
    "type_of"]

def isContainer : Datum → Bool
  | .array _ | .map _ => true
  | _ => false

def admits (limits : Limits) (name : String) (args : List Datum) : Bool :=
  match args with
  | x :: _ => copying.contains name || !isContainer x || x.sizes.fits limits
  | [] => true

def call (limits : Limits) (held : Bool) (name : String) (args : List Datum) :
    Option (Datum × Option Datum) :=
  match change? name args with
  | some (changed, value) =>
    if held && !changed.sizes.fits limits then none
    else some (value, some changed)
  | none => do
    let value ← result? name args
    if (held && !admits limits name args) || !value.sizes.fits limits then none
    else return (value, none)

end Function

end RecordSync.Script
