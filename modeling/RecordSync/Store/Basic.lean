import RecordSync.Filter
import RecordSync.Lookup
import RecordSync.Store.Object

set_option autoImplicit false

namespace RecordSync

inductive StoreError where
  | notFound (id : String)
  | conflict (id message : String)
  | unavailable (message : String)
  | backend (message : String)
  deriving DecidableEq, Repr

namespace StoreError

def isTransient : StoreError → Bool
  | .conflict _ _ | .unavailable _ => true
  | .notFound _ | .backend _ => false

def code : StoreError → String
  | .notFound _ => "STORE_NOT_FOUND"
  | .conflict _ _ => "STORE_CONFLICT"
  | .unavailable _ => "STORE_UNAVAILABLE"
  | .backend _ => "STORE_ERROR"

def message : StoreError → String
  | .notFound id => s!"object not found: {id}"
  | .conflict id m => s!"version conflict on object {id}: {m}"
  | .unavailable m => s!"store unavailable: {m}"
  | .backend m => s!"store error: {m}"

end StoreError

structure Store where
  objects : List CanonicalObject
  relations : List Relation
  nextObject : Nat
  nextRelation : Nat
  deriving DecidableEq

namespace Store

def empty : Store := ⟨[], [], 1, 1⟩

def object? (s : Store) (id : ObjectId) : Option CanonicalObject :=
  s.objects.find? fun o => o.id = id

def inCollection (s : Store) (collection : String) : List CanonicalObject :=
  s.objects.filter fun o => o.collection = collection

def lookup (s : Store) (collection : String) (filter : Filter) : Lookup CanonicalObject :=
  Lookup.ofMatches ((s.inCollection collection).filter fun o => filter.accepts o.data)

def create (s : Store) (collection : String) (data : Record) (simulate : Bool)
    (seed : Option StatusSeed) : ObjectId × Store :=
  let id : ObjectId := ⟨s.nextObject⟩
  let s := { s with nextObject := s.nextObject + 1 }
  (id, if simulate then s
    else
      let object := CanonicalObject.mk id collection 1 data []
      { s with objects := s.objects ++ [object.withSeed seed] })

def overwritten (o : CanonicalObject) (data : Record) (seed : Option StatusSeed) : CanonicalObject :=
  { o with data := data, version := o.version + 1 }.withSeed seed

def change (s : Store) (id : ObjectId) (data : Record) (simulate : Bool)
    (seed : Option StatusSeed) : Except StoreError Store :=
  if simulate then .ok s
  else if s.objects.any fun o => o.id = id then
    .ok { s with objects := s.objects.map fun o => if o.id = id then overwritten o data seed else o }
  else .error (.notFound id.render)

def delete (s : Store) (id : ObjectId) (simulate : Bool) : Store :=
  if simulate then s else { s with objects := s.objects.filter fun o => o.id ≠ id }

def relationsFrom (s : Store) (source : ObjectId) : List Relation :=
  s.relations.filter fun r => r.source = source

def createRelation (s : Store) (source target : ObjectId) (attributeName : String)
    (simulate : Bool) : RelationId × Store :=
  let id : RelationId := ⟨s.nextRelation⟩
  let s := { s with nextRelation := s.nextRelation + 1 }
  (id, if simulate then s
    else { s with relations := s.relations ++ [⟨id, source, target, attributeName⟩] })

def updateRelation (s : Store) (id : RelationId) (target : ObjectId) (simulate : Bool) : Store :=
  if simulate then s
  else { s with relations := s.relations.map fun r => if r.id = id then { r with target } else r }

def deleteRelation (s : Store) (id : RelationId) (simulate : Bool) : Store :=
  if simulate then s else { s with relations := s.relations.filter fun r => r.id ≠ id }

-- The objects of a collection that an endpoint last reported before a time.
def stale (s : Store) (collection endpoint : String) (time : Timestamp) : List CanonicalObject :=
  (s.inCollection collection).filter fun o =>
    match o.statusFor endpoint with
    | some status => status.lastSync.before time
    | none => false

end Store

end RecordSync
