import RecordSync.Sync.Outcome

set_option autoImplicit false

namespace RecordSync

structure Statistics where
  processed : UInt32
  skipped : UInt32
  failed : UInt32
  created : UInt32
  updated : UInt32
  deleted : UInt32
  unchanged : UInt32
  duration : UInt64
  deriving DecidableEq, Repr

namespace Statistics

def zero : Statistics := ⟨0, 0, 0, 0, 0, 0, 0, 0⟩

def record (s : Statistics) : Outcome → Statistics
  | .skipped => { s with skipped := s.skipped + 1 }
  | .created => { s with created := s.created + 1, processed := s.processed + 1 }
  | .updated => { s with updated := s.updated + 1, processed := s.processed + 1 }
  | .deleted => { s with deleted := s.deleted + 1, processed := s.processed + 1 }
  | .unchanged => { s with unchanged := s.unchanged + 1, processed := s.processed + 1 }

def recordFailure (s : Statistics) : Statistics := { s with failed := s.failed + 1 }

def total (s : Statistics) : UInt32 := s.processed + s.skipped + s.failed

def changed (s : Statistics) : UInt32 := s.created + s.updated + s.deleted

def merge (a b : Statistics) : Statistics :=
  ⟨a.processed + b.processed, a.skipped + b.skipped, a.failed + b.failed, a.created + b.created,
    a.updated + b.updated, a.deleted + b.deleted, a.unchanged + b.unchanged, a.duration + b.duration⟩

def toValue (s : Statistics) : Value :=
  .object [("processed", .ofNat s.processed.toNat), ("skipped", .ofNat s.skipped.toNat),
    ("failed", .ofNat s.failed.toNat), ("created", .ofNat s.created.toNat),
    ("updated", .ofNat s.updated.toNat), ("deleted", .ofNat s.deleted.toNat),
    ("unchanged", .ofNat s.unchanged.toNat), ("duration_ms", .ofNat s.duration.toNat)]

def shape : Shape :=
  ⟨"RunStatistics", ["processed", "skipped", "failed", "created", "updated", "deleted", "unchanged",
    "duration_ms"], [], false⟩

def counter (v : Value) : Decoded UInt32 := (Decode.word32 v).map UInt32.ofNat

def put (name : String) (v : Value) (s : Statistics) : Decoded Statistics := do
  match name with
  | "processed" => return { s with processed := ← counter v }
  | "skipped" => return { s with skipped := ← counter v }
  | "failed" => return { s with failed := ← counter v }
  | "created" => return { s with created := ← counter v }
  | "updated" => return { s with updated := ← counter v }
  | "deleted" => return { s with deleted := ← counter v }
  | "unchanged" => return { s with unchanged := ← counter v }
  | _ => return { s with duration := UInt64.ofNat (← Decode.word64 v) }

def ofValue : Value → Decoded Statistics := shape.read .tree put zero

end Statistics

end RecordSync
