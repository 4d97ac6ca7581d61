import RecordSync.Attribute.Spec
import RecordSync.Document.Binary
import RecordSync.Number.Numeral
import RecordSync.Text.Blank

set_option autoImplicit false

namespace RecordSync

inductive CoercionError where
  | notInt (text : String)
  | notFloat (text : String)
  | notFinite (value : Float)
  | notBool (text : String)
  | notByte (value : Value)
  | unsuited (value : Value) (kind : Kind)

namespace CoercionError

def message : CoercionError → String
  | .notInt text => s!"'{text}' is not an int"
  | .notFloat text => s!"'{text}' is not a float"
  | .notFinite value => s!"{Layout.plain.render value} is not a finite number"
  | .notBool text => s!"'{text}' is not a bool"
  | .notByte value => s!"{value.render} is not a byte"
  | .unsuited value kind => s!"cannot convert {value.render} to {kind.render}"

end CoercionError

namespace Coercion

-- The whole part of a number, held to the signed 64-bit range.
def wholePart (f : Float) : Int := f.toModel.toInt64.toInt

def toInt : Value → Except CoercionError Int
  | .number n => .ok (n.asInt64?.getD (wholePart n.asFloat))
  | .bool b => .ok (if b then 1 else 0)
  | .string s =>
    let text := Text.trim s
    match Numeral.int64? text.toList with
    | some n => .ok n
    | none =>
      match Numeral.float? text.toList with
      | some f => .ok (wholePart f)
      | none => .error (.notInt text)
  | other => .error (.unsuited other .int)

def toFloat : Value → Except CoercionError Float
  | .number n => .ok n.asFloat
  | .bool b => .ok (if b then 1.0 else 0.0)
  | .string s =>
    match Numeral.float? (Text.trim s).toList with
    | some f => .ok f
    | none => .error (.notFloat s)
  | other => .error (.unsuited other .float)

def toBool : Value → Except CoercionError Bool
  | .bool b => .ok b
  | .number n => .ok (n.asFloat != 0.0)
  | .string s =>
    let text := String.ofList ((Text.trim s).toList.map Numeral.lowerAscii)
    if ["true", "yes", "1", "on"].contains text then .ok true
    else if ["false", "no", "0", "off"].contains text then .ok false
    else .error (.notBool s)
  | other => .error (.unsuited other .bool)

def toByte : Value → Except CoercionError UInt8
  | .number (.int n h) =>
    if 0 ≤ n ∧ n < 256 then .ok (UInt8.ofNat n.toNat) else .error (.notByte (.number (.int n h)))
  | other => .error (.notByte other)

def toBinary (v : Value) : Except CoercionError Value :=
  if Binary.isWrapper v then .ok v
  else
    match v with
    | .string s => .ok (Binary.wrap s.toUTF8.toList)
    | .array items => (items.mapM toByte).map Binary.wrap
    | other => .error (.unsuited other .binary)

def finite (f : Float) : Except CoercionError Value :=
  match Number.ofFloat? f with
  | some n => .ok (.number n)
  | none => .error (.notFinite f)

def coerce (kind : Kind) (v : Value) : Except CoercionError Value :=
  match kind with
  | .string => .ok (.string v.scalarText)
  | .int => (toInt v).map .ofInt
  | .float => do finite (← toFloat v)
  | .bool => (toBool v).map .bool
  | .null => .ok .null
  | .array =>
    match v with
    | .array items => .ok (.array items)
    | other => .ok (.array [other])
  | .binary => toBinary v

end Coercion

end RecordSync
