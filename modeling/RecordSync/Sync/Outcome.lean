import RecordSync.Attribute.Spec

set_option autoImplicit false

namespace RecordSync

inductive Outcome where
  | skipped
  | created
  | updated
  | deleted
  | unchanged
  deriving DecidableEq, Repr

namespace Outcome

def render : Outcome → String
  | .skipped => "skipped"
  | .created => "created"
  | .updated => "updated"
  | .deleted => "deleted"
  | .unchanged => "unchanged"

def names : List (String × Outcome) :=
  [("skipped", .skipped), ("created", .created), ("updated", .updated), ("deleted", .deleted),
    ("unchanged", .unchanged)]

def isProcessed (o : Outcome) : Bool := o ≠ .skipped

def toValue (o : Outcome) : Value := .string o.render

def ofValue : Value → Decoded Outcome := Decode.choice .tree names

end Outcome

inductive Step (α : Type) where
  | nothing
  | create
  | update (there : α)
  | delete (there : α)
  deriving DecidableEq, Repr

def Ensure.step {α : Type} (ensure : Ensure) (there : Option α) : Step α :=
  match ensure, there with
  | .present, none | .latest, none => .create
  | .latest, some a => .update a
  | .absent, some a => .delete a
  | .present, some _ | .absent, none | .merge, _ => .nothing

end RecordSync
