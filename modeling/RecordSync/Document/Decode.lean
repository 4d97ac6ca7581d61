import RecordSync.Document.Printer
import RecordSync.Text.Quoted

set_option autoImplicit false

namespace RecordSync

inductive DecodeError where
  | missingField (name : String)
  | unknownField (name : String) (known : List String)
  | duplicateField (name : String)
  | unknownVariant (name : String) (known : List String)
  | invalidType (found : Value) (expected : String)
  | invalidLength (length : Nat) (expected : String)
  | manyKeys
  | expectedValue
  | trailing
  | invalid

namespace DecodeError

def alternatives : List String → String
  | [] => "nothing"
  | [a] => s!"`{a}`"
  | [a, b] => s!"`{a}` or `{b}`"
  | many => "one of " ++ ", ".intercalate (many.map fun a => s!"`{a}`")

def describe : Value → String
  | .null => "null"
  | .bool b => s!"boolean `{b}`"
  | .number (.int n _) => s!"integer `{n}`"
  | .number n => s!"floating point `{n.render}`"
  | .string s => "string " ++ Text.quoted s
  | .array _ => "sequence"
  | .object _ => "map"

def message : DecodeError → String
  | .missingField name => s!"missing field `{name}`"
  | .unknownField name known => s!"unknown field `{name}`, expected {alternatives known}"
  | .duplicateField name => s!"duplicate field `{name}`"
  | .unknownVariant name known => s!"unknown variant `{name}`, expected {alternatives known}"
  | .invalidType found expected => s!"invalid type: {describe found}, expected {expected}"
  | .invalidLength length expected => s!"invalid length {length}, expected {expected}"
  | .manyKeys => "invalid value: map, expected map with a single key"
  | .expectedValue => "expected value"
  | .trailing => "trailing characters"
  | .invalid => "invalid value"

end DecodeError

-- Where a document comes from: a tree held in memory, or text just read. Faults in text are told
-- with less detail.
inductive Origin where
  | tree
  | text
  deriving DecidableEq, Repr

abbrev Decoded (α : Type) := Except DecodeError α

namespace Decode

variable {α : Type}

def string : Value → Decoded String
  | .string s => .ok s
  | other => .error (.invalidType other "a string")

def bool : Value → Decoded Bool
  | .bool b => .ok b
  | other => .error (.invalidType other "a boolean")

def nat (bound : Nat) : Value → Decoded Nat
  | .number (.int n _) => if 0 ≤ n ∧ n ≤ bound then .ok n.toNat else .error .invalid
  | other => .error (.invalidType other "a number")

def word32 : Value → Decoded Nat := nat 0xFFFFFFFF

def word64 : Value → Decoded Nat := nat 0xFFFFFFFFFFFFFFFF

def unit : Value → Decoded Unit
  | .null => .ok ()
  | other => .error (.invalidType other "unit")

def option (read : Value → Decoded α) : Value → Decoded (Option α)
  | .null => .ok none
  | other => (read other).map some

def record : Value → Decoded Record
  | .object fields => .ok fields
  | other => .error (.invalidType other "a map")

def list (read : Value → Decoded α) : Value → Decoded (List α)
  | .array items => items.mapM read
  | other => .error (.invalidType other "a sequence")

def keyed (read : Value → Decoded α) : Value → Decoded (Keyed α)
  | .object fields => fields.mapM fun (k, v) => (read v).map fun a => (k, a)
  | other => .error (.invalidType other "a map")

def variant (known : List (String × α)) (name : String) : Decoded α :=
  match Keyed.get? name known with
  | some a => .ok a
  | none => .error (.unknownVariant name (known.map Prod.fst))

def choice (origin : Origin) (known : List (String × α)) : Value → Decoded α
  | .string name => variant known name
  | .object [] => .error (if origin = .tree then .manyKeys else .expectedValue)
  | .object ((name, content) :: rest) => do
    if origin = .tree && !rest.isEmpty then throw .manyKeys
    let a ← variant known name
    unit content
    if rest.isEmpty then return a else throw .expectedValue
  | other =>
    .error (if origin = .tree then .invalidType other "string or map" else .expectedValue)

end Decode

-- The outline of a structure: its fields in order, and those that must be given. A closed structure
-- takes no other field.
structure Shape where
  title : String
  fields : List String
  required : List String
  closed : Bool

namespace Shape

variable {α : Type}

def readEntries (shape : Shape) (put : String → Value → α → Decoded α) :
    List String → List (String × Value) → α → Decoded (List String × α)
  | seen, [], a => .ok (seen, a)
  | seen, (k, v) :: rest, a =>
    if shape.fields.contains k then
      if seen.contains k then .error (.duplicateField k)
      else do readEntries shape put (k :: seen) rest (← put k v a)
    else if shape.closed then .error (.unknownField k shape.fields)
    else readEntries shape put seen rest a

def readItems (put : String → Value → α → Decoded α) :
    List String → List Value → α → Decoded α
  | k :: ks, v :: vs, a => do readItems put ks vs (← put k v a)
  | _, _, a => .ok a

def read (shape : Shape) (origin : Origin) (put : String → Value → α → Decoded α) (blank : α) :
    Value → Decoded α
  | .object fields => do
    let (seen, a) ← shape.readEntries put [] fields blank
    match shape.required.find? fun k => !seen.contains k with
    | some k => throw (.missingField k)
    | none => return a
  | .array items => do
    let a ← readItems put shape.fields items blank
    let given := shape.fields.take items.length
    match shape.required.find? fun k => !given.contains k with
    | some _ =>
      throw (.invalidLength items.length s!"struct {shape.title} with {shape.fields.length} elements")
    | none =>
      if shape.fields.length < items.length then
        throw <| match origin with
          | .tree => .invalidLength items.length "fewer elements in array"
          | .text => .trailing
      else return a
  | other => .error (.invalidType other s!"struct {shape.title}")

end Shape

end RecordSync
