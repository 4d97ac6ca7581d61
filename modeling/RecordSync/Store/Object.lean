import RecordSync.Identifier
import RecordSync.Timestamp

set_option autoImplicit false

namespace RecordSync

structure SyncStatus where
  lastSync : Timestamp
  garbage : Bool
  result : Option String
  id : Option String
  deriving DecidableEq, Repr

namespace SyncStatus

def synced (t : Timestamp) : SyncStatus := ⟨t, false, none, none⟩

def gone (t : Timestamp) : SyncStatus := ⟨t, true, none, none⟩

def optional (name : String) : Option String → List (String × Value)
  | some s => [(name, .string s)]
  | none => []

def toValue (s : SyncStatus) : Value :=
  .object <| [("last_sync", s.lastSync.toValue), ("garbage", .bool s.garbage)] ++
    optional "result" s.result ++ optional "id" s.id

def shape : Shape := ⟨"SyncStatus", ["last_sync", "garbage", "result", "id"], ["last_sync"], false⟩

def put (name : String) (v : Value) (s : SyncStatus) : Decoded SyncStatus := do
  match name with
  | "last_sync" => return { s with lastSync := ← Timestamp.ofValue v }
  | "garbage" => return { s with garbage := ← Decode.bool v }
  | "result" => return { s with result := ← Decode.option Decode.string v }
  | _ => return { s with id := ← Decode.option Decode.string v }

def ofValue : Value → Decoded SyncStatus := shape.read .tree put (synced ⟨0, 0⟩)

end SyncStatus

structure StatusSeed where
  endpoint : String
  status : SyncStatus
  deriving DecidableEq, Repr

namespace StatusSeed

def toValue (s : StatusSeed) : Value :=
  .object [("endpoint", .string s.endpoint), ("status", s.status.toValue)]

def shape : Shape := ⟨"StatusSeed", ["endpoint", "status"], ["endpoint", "status"], false⟩

def put (name : String) (v : Value) (s : StatusSeed) : Decoded StatusSeed := do
  match name with
  | "endpoint" => return { s with endpoint := ← Decode.string v }
  | _ => return { s with status := ← SyncStatus.ofValue v }

def ofValue : Value → Decoded StatusSeed :=
  shape.read .tree put ⟨"", SyncStatus.synced ⟨0, 0⟩⟩

end StatusSeed

abbrev Statuses := Keyed SyncStatus

namespace Statuses

def toValue (s : Statuses) : Value :=
  .object (Keyed.mapValues SyncStatus.toValue s)

def ofValue (v : Value) : Decoded Statuses :=
  (Decode.keyed SyncStatus.ofValue v).map Keyed.sorted

end Statuses

structure CanonicalObject where
  id : ObjectId
  collection : String
  version : Nat
  data : Record
  status : Statuses
  deriving DecidableEq

namespace CanonicalObject

def statusFor (o : CanonicalObject) (endpoint : String) : Option SyncStatus :=
  Keyed.get? endpoint o.status

def withSeed (o : CanonicalObject) : Option StatusSeed → CanonicalObject
  | some seed => { o with status := Keyed.insertSorted seed.endpoint seed.status o.status }
  | none => o

def toValue (o : CanonicalObject) : Value :=
  .object [("id", o.id.toValue), ("collection", .string o.collection), ("version", .ofNat o.version),
    ("data", .object o.data), ("status", Statuses.toValue o.status)]

def shape : Shape :=
  ⟨"CanonicalObject", ["id", "collection", "version", "data", "status"],
    ["id", "collection", "version"], false⟩

def put (name : String) (v : Value) (o : CanonicalObject) : Decoded CanonicalObject := do
  match name with
  | "id" => return { o with id := ← ObjectId.ofValue v }
  | "collection" => return { o with collection := ← Decode.string v }
  | "version" => return { o with version := ← Decode.word64 v }
  | "data" => return { o with data := ← Decode.record v }
  | _ => return { o with status := ← Statuses.ofValue v }

def ofValue : Value → Decoded CanonicalObject := shape.read .tree put ⟨⟨0⟩, "", 0, [], []⟩

end CanonicalObject

structure Relation where
  id : RelationId
  source : ObjectId
  target : ObjectId
  attributeName : String
  deriving DecidableEq, Repr

namespace Relation

def toValue (r : Relation) : Value :=
  .object [("id", r.id.toValue), ("source", r.source.toValue), ("target", r.target.toValue),
    ("attribute", .string r.attributeName)]

def shape : Shape :=
  ⟨"Relation", ["id", "source", "target", "attribute"], ["id", "source", "target", "attribute"],
    false⟩

def put (name : String) (v : Value) (r : Relation) : Decoded Relation := do
  match name with
  | "id" => return { r with id := ← RelationId.ofValue v }
  | "source" => return { r with source := ← ObjectId.ofValue v }
  | "target" => return { r with target := ← ObjectId.ofValue v }
  | _ => return { r with attributeName := ← Decode.string v }

def ofValue : Value → Decoded Relation := shape.read .tree put ⟨⟨0⟩, ⟨0⟩, ⟨0⟩, ""⟩

end Relation

end RecordSync
