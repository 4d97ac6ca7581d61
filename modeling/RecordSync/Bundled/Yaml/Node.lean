import RecordSync.Document.Reader

set_option autoImplicit false

namespace RecordSync

inductive Yaml where
  | plain (text : String)
  | quoted (text : String)
  | sequence (items : List Yaml)
  | mapping (entries : List (String × Yaml))

namespace Yaml

def blank : Yaml := .plain ""

def isBlank : Yaml → Bool
  | .plain text => text.isEmpty
  | _ => false

def text? : Yaml → Option String
  | .plain text | .quoted text => some text
  | .sequence _ | .mapping _ => none

def isNullText (text : String) : Bool :=
  text.isEmpty || ["~", "null", "Null", "NULL"].contains text

def boolOf? (text : String) : Option Bool :=
  if ["true", "True", "TRUE"].contains text then some true
  else if ["false", "False", "FALSE"].contains text then some false
  else none

def digitsIn? (base : Nat) (cs : List Char) : Option Nat :=
  if cs.isEmpty then none
  else cs.foldlM (fun acc c => do
    let d ← Document.hexValue? c
    if d < base then some (acc * base + d) else none) 0

def isPadded : List Char → Bool
  | '0' :: c :: cs => (c :: cs).all Numeral.isDigit
  | _ => false

def magnitude? : List Char → Option Nat
  | '0' :: 'x' :: cs => digitsIn? 16 cs
  | '0' :: 'o' :: cs => digitsIn? 8 cs
  | '0' :: 'b' :: cs => digitsIn? 2 cs
  | cs => if isPadded cs then none else digitsIn? 10 cs

def wideBound : Nat := 0x100000000000000000000000000000000

def intOf? (cs : List Char) : Option Int :=
  match cs with
  | '-' :: rest =>
    (magnitude? rest).bind fun n => if n ≤ wideBound / 2 then some (-Int.ofNat n) else none
  | '+' :: rest | rest =>
    (magnitude? rest).bind fun n => if n < wideBound then some (Int.ofNat n) else none

def unsigned (cs : List Char) : List Char :=
  match cs with
  | '-' :: rest | '+' :: rest | rest => rest

def notFinite : List String :=
  [".inf", ".Inf", ".INF", "+.inf", "+.Inf", "+.INF", "-.inf", "-.Inf", "-.INF", ".nan", ".NaN",
    ".NAN"]

def floatOf? (cs : List Char) : Option Number :=
  if isPadded (unsigned cs) then none else (Numeral.float? cs).bind Number.ofFloat?

-- The meaning of a plain text. Whole numbers outside the range of numbers have none.
def plainValue? (text : String) : Option Value :=
  if isNullText text || notFinite.contains text then some .null
  else
    match boolOf? text with
    | some b => some (.bool b)
    | none =>
      match intOf? text.toList with
      | some n => (Number.ofInt? n).map .number
      | none =>
        match floatOf? text.toList with
        | some n => some (.number n)
        | none => some (.string text)

mutual

def toValue? : Yaml → Option Value
  | .plain text => plainValue? text
  | .quoted text => some (.string text)
  | .sequence items => (itemValues? items).map .array
  | .mapping entries => (entryValues? entries).map .object

def itemValues? : List Yaml → Option (List Value)
  | [] => some []
  | x :: xs => do return (← x.toValue?) :: (← itemValues? xs)

def entryValues? : List (String × Yaml) → Option (List (String × Value))
  | [] => some []
  | (k, x) :: xs => do return (k, ← x.toValue?) :: (← entryValues? xs)

end

end Yaml

end RecordSync
