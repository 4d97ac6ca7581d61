import RecordSync.Document.Value

set_option autoImplicit false

namespace RecordSync

inductive Lookup (α : Type) where
  | found (value : α)
  | notFound
  | unresolvable
  | multiple (count : Nat)
  deriving DecidableEq, Repr

namespace Lookup

variable {α β : Type}

def ofMatches : List α → Lookup α
  | [] => .notFound
  | [only] => .found only
  | many => .multiple many.length

def isFound : Lookup α → Bool
  | .found _ => true
  | _ => false

def map (f : α → β) : Lookup α → Lookup β
  | .found v => .found (f v)
  | .notFound => .notFound
  | .unresolvable => .unresolvable
  | .multiple n => .multiple n

def toValue (f : α → Value) : Lookup α → Value
  | .found v => .object [("outcome", .string "found"), ("value", f v)]
  | .notFound => .object [("outcome", .string "not_found")]
  | .unresolvable => .object [("outcome", .string "unresolvable")]
  | .multiple n =>
    .object [("outcome", .string "multiple"), ("value", .object [("count", .ofNat n)])]

theorem ofMatches_eq_found_iff (xs : List α) (x : α) : ofMatches xs = .found x ↔ xs = [x] := by
  match xs with
  | [] | [_] | _ :: _ :: _ => simp [ofMatches]

theorem ofMatches_eq_notFound_iff (xs : List α) : ofMatches xs = .notFound ↔ xs = [] := by
  match xs with
  | [] | [_] | _ :: _ :: _ => simp [ofMatches]

end Lookup

end RecordSync
