import RecordSync.Document.Value
import RecordSync.Number.Numeral

set_option autoImplicit false

namespace RecordSync

namespace Document

def maxDepth : Nat := 127

def isSpace (c : Char) : Bool :=
  c = ' ' || c = '\n' || c = '\t' || c = '\r'

def skipSpace (cs : List Char) : List Char :=
  cs.dropWhile isSpace

def hexValue? (c : Char) : Option Nat :=
  if '0' ≤ c ∧ c ≤ '9' then some (c.toNat - '0'.toNat)
  else if 'a' ≤ c ∧ c ≤ 'f' then some (c.toNat - 'a'.toNat + 10)
  else if 'A' ≤ c ∧ c ≤ 'F' then some (c.toNat - 'A'.toNat + 10)
  else none

def hex4? : List Char → Option (Nat × List Char)
  | a :: b :: c :: d :: rest => do
    let a ← hexValue? a
    let b ← hexValue? b
    let c ← hexValue? c
    let d ← hexValue? d
    return (a * 4096 + b * 256 + c * 16 + d, rest)
  | _ => none

def simpleEscape? : Char → Option Char
  | '"' => some '"'
  | '\\' => some '\\'
  | '/' => some '/'
  | 'b' => some (Char.ofNat 0x08)
  | 'f' => some (Char.ofNat 0x0C)
  | 'n' => some '\n'
  | 'r' => some '\r'
  | 't' => some '\t'
  | _ => none

-- The rest of a string behind its opening quote; the first argument bounds its length. The two
-- halves of a surrogate pair stand together.
def readString : Nat → List Char → List Char → Option (String × List Char)
  | 0, _, _ => none
  | _, _, [] => none
  | fuel + 1, acc, '\\' :: rest =>
    match rest with
    | 'u' :: digits => do
      let (n, rest) ← hex4? digits
      if 0xD800 ≤ n ∧ n < 0xDC00 then
        match rest with
        | '\\' :: 'u' :: digits =>
          let (m, rest) ← hex4? digits
          if 0xDC00 ≤ m ∧ m < 0xE000 then
            readString fuel (Char.ofNat (0x10000 + (n - 0xD800) * 0x400 + (m - 0xDC00)) :: acc) rest
          else none
        | _ => none
      else if 0xDC00 ≤ n ∧ n < 0xE000 then none
      else readString fuel (Char.ofNat n :: acc) rest
    | c :: rest => do
      let c ← simpleEscape? c
      readString fuel (c :: acc) rest
    | [] => none
  | fuel + 1, acc, c :: rest =>
    if c = '"' then some (String.ofList acc.reverse, rest)
    else if c.toNat < 0x20 then none
    else readString fuel (c :: acc) rest

-- The digits of a significand as far as they fit a 64-bit word. The second part counts the digits
-- taken, the third holds those left over.
def significand : Nat → Nat → List Char → Nat × Nat × List Char
  | acc, taken, c :: cs =>
    match Numeral.digit? c with
    | some d =>
      if acc * 10 + d ≤ Numeral.wordBound then significand (acc * 10 + d) (taken + 1) cs
      else (acc, taken, c :: cs)
    | none => (acc, taken, c :: cs)
  | acc, taken, [] => (acc, taken, [])

def powerOfTen (n : Nat) : Float := Float.ofScientific 1 false n

def scaleDown : Nat → Float → Nat → Float
  | 0, f, n => f / powerOfTen n
  | steps + 1, f, n =>
    if n ≤ 308 then f / powerOfTen n
    else if f == 0.0 then f
    else scaleDown steps (f / powerOfTen 308) (n - 308)

def scale? (m : Nat) (e : Int) : Option Float :=
  let f := Float.ofNat m
  if 0 ≤ e then
    if 308 < e then if m = 0 then some f else none
    else
      let g := f * powerOfTen e.toNat
      if g.isFinite then some g else none
  else some (scaleDown 5 f e.natAbs)

def readExponent : List Char → Option (Int × List Char)
  | cs =>
    let (negative, cs) := match cs with
      | '+' :: cs => (false, cs)
      | '-' :: cs => (true, cs)
      | cs => (false, cs)
    let ds := cs.takeWhile Numeral.isDigit
    if ds.isEmpty then none
    else
      let n := min (Numeral.digitsValue ds) 2147483647
      some (if negative then -Int.ofNat n else Int.ofNat n, cs.dropWhile Numeral.isDigit)

def signed (negative : Bool) (f : Float) : Float :=
  if negative then -f else f

def floatOf? (negative : Bool) (m : Nat) (e : Int) : Option Number :=
  (scale? m e).bind fun f => Number.ofFloat? (signed negative f)

def readTail (negative : Bool) (m : Nat) (e : Int) (exact : Bool) :
    List Char → Option (Number × List Char)
  | '.' :: cs =>
    if (cs.takeWhile Numeral.isDigit).isEmpty then none
    else
      let (m, taken, left) := significand m 0 cs
      let e := e - Int.ofNat taken
      match left.dropWhile Numeral.isDigit with
      | c :: rest =>
        if c = 'e' || c = 'E' then do
          let (x, rest) ← readExponent rest
          return (← floatOf? negative m (e + x), rest)
        else return (← floatOf? negative m e, c :: rest)
      | [] => return (← floatOf? negative m e, [])
  | cs =>
    match cs with
    | c :: rest =>
      if c = 'e' || c = 'E' then do
        let (x, rest) ← readExponent rest
        return (← floatOf? negative m (e + x), rest)
      else whole cs
    | [] => whole []
where
  whole (rest : List Char) : Option (Number × List Char) :=
    if !exact then do return (← floatOf? negative m e, rest)
    else if negative then
      if m = 0 || 0x8000000000000000 < m then do return (← floatOf? true m 0, rest)
      else do return (← Number.ofInt? (-Int.ofNat m), rest)
    else do return (← Number.ofInt? (Int.ofNat m), rest)

def readUnsigned (negative : Bool) : List Char → Option (Number × List Char)
  | '0' :: cs =>
    match cs with
    | c :: _ => if Numeral.isDigit c then none else readTail negative 0 0 true cs
    | [] => readTail negative 0 0 true []
  | cs =>
    match cs with
    | c :: _ =>
      if Numeral.isDigit c then
        let (m, _, left) := significand 0 0 cs
        let dropped := left.takeWhile Numeral.isDigit
        readTail negative m (Int.ofNat dropped.length) dropped.isEmpty (left.dropWhile Numeral.isDigit)
      else none
    | [] => none

def readNumber : List Char → Option (Number × List Char)
  | '-' :: cs => readUnsigned true cs
  | cs => readUnsigned false cs

mutual

-- One value at the front of the text. The first argument bounds the depth, the second the number of
-- values of one container.
def readValue : Nat → List Char → Option (Value × List Char)
  | depth, cs =>
    match skipSpace cs with
    | 'n' :: 'u' :: 'l' :: 'l' :: rest => some (.null, rest)
    | 't' :: 'r' :: 'u' :: 'e' :: rest => some (.bool true, rest)
    | 'f' :: 'a' :: 'l' :: 's' :: 'e' :: rest => some (.bool false, rest)
    | '"' :: rest => (readString (rest.length + 1) [] rest).map fun (s, rest) => (.string s, rest)
    | '[' :: rest =>
      match depth with
      | 0 => none
      | depth + 1 =>
        match skipSpace rest with
        | ']' :: rest => some (.array [], rest)
        | rest => readItems depth rest.length [] rest
    | '{' :: rest =>
      match depth with
      | 0 => none
      | depth + 1 =>
        match skipSpace rest with
        | '}' :: rest => some (.object [], rest)
        | rest => readFields depth rest.length [] rest
    | rest => (readNumber rest).map fun (n, rest) => (.number n, rest)
  termination_by depth => (depth, 0)

def readItems : Nat → Nat → List Value → List Char → Option (Value × List Char)
  | _, 0, _, _ => none
  | depth, count + 1, acc, cs => do
    let (item, rest) ← readValue depth cs
    match skipSpace rest with
    | ',' :: rest => readItems depth count (item :: acc) rest
    | ']' :: rest => some (.array (item :: acc).reverse, rest)
    | _ => none
  termination_by depth count => (depth, count + 1)

def readFields : Nat → Nat → List (String × Value) → List Char → Option (Value × List Char)
  | _, 0, _, _ => none
  | depth, count + 1, acc, cs =>
    match skipSpace cs with
    | '"' :: rest => do
      let (key, rest) ← readString (rest.length + 1) [] rest
      match skipSpace rest with
      | ':' :: rest =>
        let (value, rest) ← readValue depth rest
        match skipSpace rest with
        | ',' :: rest => readFields depth count ((key, value) :: acc) rest
        | '}' :: rest => some (.object ((key, value) :: acc).reverse, rest)
        | _ => none
      | _ => none
    | _ => none
  termination_by depth count => (depth, count + 1)

end

def readEntries (s : String) : Option Value :=
  match readValue maxDepth s.toList with
  | some (v, rest) => if (skipSpace rest).isEmpty then some v else none
  | none => none

end Document

namespace Value

mutual

def collectKeys : Value → Value
  | .array items => .array (collectItems items)
  | .object fields => .object (Keyed.collect (collectFields fields))
  | other => other

def collectItems : List Value → List Value
  | [] => []
  | x :: xs => x.collectKeys :: collectItems xs

def collectFields : List (String × Value) → List (String × Value)
  | [] => []
  | (k, x) :: xs => (k, x.collectKeys) :: collectFields xs

end

end Value

namespace Document

def read (s : String) : Option Value :=
  (readEntries s).map Value.collectKeys

end Document

end RecordSync
