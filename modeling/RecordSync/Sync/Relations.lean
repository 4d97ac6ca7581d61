import RecordSync.Attribute.Mapper
import RecordSync.Sync.Session

set_option autoImplicit false

namespace RecordSync

structure EdgeChanges where
  created : Nat
  updated : Nat
  deleted : Nat
  skipped : Nat
  deriving DecidableEq, Repr

namespace EdgeChanges

def zero : EdgeChanges := ⟨0, 0, 0, 0⟩

def add (a b : EdgeChanges) : EdgeChanges :=
  ⟨a.created + b.created, a.updated + b.updated, a.deleted + b.deleted, a.skipped + b.skipped⟩

def isEmpty (c : EdgeChanges) : Bool :=
  c.created = 0 && c.updated = 0 && c.deleted = 0

end EdgeChanges

namespace Relations

def deleteAll (simulate : Bool) (edges : List Relation) : Sync Unit :=
  edges.forM fun edge => Sync.deleteRelation edge.id simulate

def target? (d : AttributeDefinition) (link : RelationLink) (value : Value) :
    Sync (Option ObjectId) := do
  let found ← Sync.lookupObject link.collection (.equals link.attributeName value) false
  let there ← Sync.only (.relation d.name link.collection) found
  return there.map CanonicalObject.id

-- Points an attribute's edge to its target: further edges go, a missing one is created, and the
-- first is retargeted unless the attribute only has to exist.
def pointTo (d : AttributeDefinition) (source target : ObjectId) (simulate : Bool) :
    List Relation → Sync EdgeChanges
  | [] => do
    let _ ← Sync.createRelation source target d.name simulate
    return ⟨1, 0, 0, 0⟩
  | edge :: extra => do
    deleteAll simulate extra
    if edge.target ≠ target && d.ensure ≠ .present then
      Sync.updateRelation edge.id target simulate
      return ⟨0, 1, extra.length, 0⟩
    else return ⟨0, 0, extra.length, 0⟩

def reconcileOne (d : AttributeDefinition) (link : RelationLink) (source : ObjectId) (data : Record)
    (simulate : Bool) (current : List Relation) : Sync EdgeChanges := do
  let value := (Keyed.get? d.name data).filter fun v => !v.isEmpty
  if d.ensure = .absent || (d.ensure = .latest && value.isNone) then
    deleteAll simulate current
    return ⟨0, 0, current.length, 0⟩
  else
    match value with
    | none => return .zero
    | some value =>
      match ← target? d link value with
      | none => return ⟨0, 0, 0, 1⟩
      | some target => pointTo d source target simulate current

def reconcileAll (source : ObjectId) (data : Record) (simulate : Bool) (edges : List Relation) :
    List AttributeDefinition → Sync EdgeChanges
  | [] => return .zero
  | d :: ds => do
    let first ← match d.relation with
      | some link =>
        reconcileOne d link source data simulate (edges.filter fun e => e.attributeName = d.name)
      | none => pure .zero
    let rest ← reconcileAll source data simulate edges ds
    return first.add rest

def reconcile (m : Mapper) (source : ObjectId) (data : Record) (simulate : Bool) :
    Sync EdgeChanges := do
  let edges ← Sync.relationsFrom source
  reconcileAll source data simulate edges m.related

def gather : List Relation → Record → Sync Record
  | [], related => return related
  | edge :: edges, related => do
    match ← Sync.loadObject edge.target with
    | some target => gather edges (Keyed.insert edge.attributeName (.object target.data) related)
    | none => gather edges related

-- The data of related objects under their attributes' names. Edges to objects that are gone are
-- left out.
def relatedData (source : ObjectId) : Sync Record := do
  gather (← Sync.relationsFrom source) []

def removeAll (source : ObjectId) (simulate : Bool) : Sync Nat := do
  let edges ← Sync.relationsFrom source
  deleteAll simulate edges
  return edges.length

end Relations

end RecordSync
