import RecordSync.Document.Decode
import RecordSync.Number.Numeral
import RecordSync.Text.Blank

set_option autoImplicit false

namespace RecordSync

structure Limits where
  maxOperations : Nat
  maxCallLevels : Nat
  maxStringSize : Nat
  maxArraySize : Nat
  maxMapSize : Nat
  -- Milliseconds; zero sets no bound.
  timeout : Nat
  deriving DecidableEq, Repr

structure LimitError where
  variableName : String
  fault : NumeralError
  deriving DecidableEq, Repr

namespace LimitError

def message (e : LimitError) : String := s!"invalid value for {e.variableName}: {e.fault.message}"

end LimitError

namespace Limits

def default : Limits := ⟨100000, 64, 65536, 10000, 10000, 1000⟩

def readVariable (environment : Keyed String) (name : String) (unset : Nat) :
    Except LimitError Nat :=
  match Keyed.get? name environment with
  | none => .ok unset
  | some text =>
    match Numeral.nat? Numeral.wordBound (Text.trim text).toList with
    | .ok n => .ok n
    | .error e => .error ⟨name, e⟩

def ofEnvironment (environment : Keyed String) : Except LimitError Limits := do
  let timeout ← readVariable environment "SYNCLINE_EXPR_TIMEOUT_MS" default.timeout
  let operations ← readVariable environment "SYNCLINE_EXPR_MAX_OPERATIONS" default.maxOperations
  return { default with maxOperations := operations, timeout }

def toValue (l : Limits) : Value :=
  .object [("max_operations", .ofNat l.maxOperations), ("max_call_levels", .ofNat l.maxCallLevels),
    ("max_string_size", .ofNat l.maxStringSize), ("max_array_size", .ofNat l.maxArraySize),
    ("max_map_size", .ofNat l.maxMapSize), ("timeout_ms", .ofNat l.timeout)]

def names : List String :=
  ["max_operations", "max_call_levels", "max_string_size", "max_array_size", "max_map_size",
    "timeout_ms"]

def shape : Shape := ⟨"EvaluatorConfig", names, names, false⟩

def put (name : String) (v : Value) (l : Limits) : Decoded Limits := do
  match name with
  | "max_operations" => return { l with maxOperations := ← Decode.word64 v }
  | "max_call_levels" => return { l with maxCallLevels := ← Decode.word64 v }
  | "max_string_size" => return { l with maxStringSize := ← Decode.word64 v }
  | "max_array_size" => return { l with maxArraySize := ← Decode.word64 v }
  | "max_map_size" => return { l with maxMapSize := ← Decode.word64 v }
  | _ => return { l with timeout := ← Decode.word64 v }

def ofValue : Value → Decoded Limits := shape.read .tree put default

end Limits

end RecordSync
