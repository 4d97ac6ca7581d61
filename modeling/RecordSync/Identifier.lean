import RecordSync.Document.Decode
import RecordSync.Number.Numeral

set_option autoImplicit false

namespace RecordSync

namespace Uuid

def hexDigit? (c : Char) : Option Nat :=
  if '0' ≤ c ∧ c ≤ '9' then some (c.toNat - '0'.toNat)
  else if 'a' ≤ c ∧ c ≤ 'f' then some (c.toNat - 'a'.toNat + 10)
  else if 'A' ≤ c ∧ c ≤ 'F' then some (c.toNat - 'A'.toNat + 10)
  else none

def hexValue (acc : Nat) : List Char → Option Nat
  | [] => some acc
  | c :: cs => (hexDigit? c).bind fun d => hexValue (acc * 16 + d) cs

def hexDigits : Nat → Nat → List Char
  | 0, _ => []
  | n + 1, value => hexDigits n (value / 16) ++ [Text.hexDigit (value % 16)]

def groups : List Nat := [8, 4, 4, 4, 12]

def hyphenate : List Nat → List Char → List Char
  | [], _ => []
  | [_], cs => cs
  | n :: ns, cs => cs.take n ++ '-' :: hyphenate ns (cs.drop n)

def unhyphenate? : List Nat → List Char → Option (List Char)
  | [], _ => none
  | [n], cs => if cs.length = n then some cs else none
  | n :: ns, cs =>
    match cs.drop n with
    | '-' :: rest => (unhyphenate? ns rest).map (cs.take n ++ ·)
    | _ => none

def render (value : Nat) : String :=
  String.ofList (hyphenate groups (hexDigits 32 value))

def urn : List Char := ['u', 'r', 'n', ':', 'u', 'u', 'i', 'd', ':']

def read? (s : String) : Option Nat :=
  let cs := s.toList
  let hyphenated (cs : List Char) := (unhyphenate? groups cs).bind (hexValue 0)
  if cs.length = 32 then hexValue 0 cs
  else if cs.length = 36 then hyphenated cs
  else if cs.length = 38 then
    match cs with
    | '{' :: rest => if rest.getLast? = some '}' then hyphenated rest.dropLast else none
    | _ => none
  else if cs.length = 45 ∧ (cs.take 9).map Numeral.lowerAscii = urn then hyphenated (cs.drop 9)
  else none

end Uuid

structure ObjectId where
  number : Nat
  deriving DecidableEq, Repr

structure RelationId where
  number : Nat
  deriving DecidableEq, Repr

structure IdError where
  kind : String
  deriving DecidableEq, Repr

namespace IdError

def message (e : IdError) : String := s!"Failed to parse {e.kind}"

end IdError

namespace ObjectId

def render (id : ObjectId) : String := Uuid.render id.number

def parse (s : String) : Except IdError ObjectId :=
  match Uuid.read? s with
  | some n => .ok ⟨n⟩
  | none => .error ⟨"ObjectId"⟩

def toValue (id : ObjectId) : Value := .string id.render

def ofValue (v : Value) : Decoded ObjectId := do
  match parse (← Decode.string v) with
  | .ok id => return id
  | .error _ => throw .invalid

end ObjectId

namespace RelationId

def render (id : RelationId) : String := Uuid.render id.number

def parse (s : String) : Except IdError RelationId :=
  match Uuid.read? s with
  | some n => .ok ⟨n⟩
  | none => .error ⟨"RelationId"⟩

def toValue (id : RelationId) : Value := .string id.render

def ofValue (v : Value) : Decoded RelationId := do
  match parse (← Decode.string v) with
  | .ok id => return id
  | .error _ => throw .invalid

end RelationId

end RecordSync
