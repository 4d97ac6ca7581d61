import RecordSync.Batch.Statistics
import RecordSync.Workflow.Error

set_option autoImplicit false

namespace RecordSync

structure ObjectFailure where
  -- The position of an imported record, or the identifier of a stored object.
  key : String
  code : String
  message : String
  retryable : Bool
  deriving DecidableEq, Repr

namespace ObjectFailure

def ofError (key : String) (e : WorkflowError) : ObjectFailure :=
  ⟨key, e.code, e.message, e.isRetryable⟩

def toValue (f : ObjectFailure) : Value :=
  .object [("key", .string f.key), ("error_code", .string f.code), ("message", .string f.message),
    ("retryable", .bool f.retryable)]

def shape : Shape :=
  ⟨"ObjectFailure", ["key", "error_code", "message", "retryable"],
    ["key", "error_code", "message", "retryable"], false⟩

def put (name : String) (v : Value) (f : ObjectFailure) : Decoded ObjectFailure := do
  match name with
  | "key" => return { f with key := ← Decode.string v }
  | "error_code" => return { f with code := ← Decode.string v }
  | "message" => return { f with message := ← Decode.string v }
  | _ => return { f with retryable := ← Decode.bool v }

def ofValue : Value → Decoded ObjectFailure := shape.read .tree put ⟨"", "", "", false⟩

end ObjectFailure

structure Report where
  statistics : Statistics
  failures : List ObjectFailure
  deriving DecidableEq, Repr

namespace Report

def empty : Report := ⟨.zero, []⟩

def track (r : Report) (key : String) : Except WorkflowError Outcome → Report
  | .ok outcome => { r with statistics := r.statistics.record outcome }
  | .error e => ⟨r.statistics.recordFailure, r.failures ++ [.ofError key e]⟩

def retryable (r : Report) : List ObjectFailure := r.failures.filter ObjectFailure.retryable

def isClean (r : Report) : Bool := r.failures.isEmpty

def toValue (r : Report) : Value :=
  .object <| ("statistics", r.statistics.toValue) ::
    if r.failures.isEmpty then []
    else [("failures", .array (r.failures.map ObjectFailure.toValue))]

def shape : Shape := ⟨"RunReport", ["statistics", "failures"], ["statistics"], false⟩

def put (name : String) (v : Value) (r : Report) : Decoded Report := do
  match name with
  | "statistics" => return { r with statistics := ← Statistics.ofValue v }
  | _ => return { r with failures := ← Decode.list ObjectFailure.ofValue v }

def ofValue : Value → Decoded Report := shape.read .tree put empty

end Report

end RecordSync
