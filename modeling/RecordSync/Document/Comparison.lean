import RecordSync.Document.Value

set_option autoImplicit false

namespace RecordSync

namespace Number

-- Whole numbers of the signed range compare exactly, any other pair as floating-point numbers.
def agrees (a b : Number) : Bool :=
  match a.asInt64?, b.asInt64? with
  | some m, some n => m == n
  | _, _ => a.asFloat == b.asFloat

end Number

def removeFirst? {α : Type} (p : α → Bool) : List α → Option (List α)
  | [] => none
  | x :: xs => if p x then some xs else (removeFirst? p xs).map (x :: ·)

namespace Value

mutual

def agrees : Value → Value → Bool
  | .null, .null => true
  | .bool a, .bool b => a == b
  | .number a, .number b => a.agrees b
  | .string a, .string b => a == b
  | .array xs, .array ys => xs.length == ys.length && agreesItems xs ys
  | .object xs, .object ys => xs.length == ys.length && agreesFields xs ys
  | _, _ => false

-- Each element in turn takes the first element on the other side that it agrees with and that is
-- still free.
def agreesItems : List Value → List Value → Bool
  | [], _ => true
  | x :: xs, ys =>
    match removeFirst? (fun y => agrees x y) ys with
    | some rest => agreesItems xs rest
    | none => false

def agreesFields : List (String × Value) → List (String × Value) → Bool
  | [], _ => true
  | (k, x) :: xs, ys =>
    (match Keyed.get? k ys with
      | some y => agrees x y
      | none => false) && agreesFields xs ys

end

mutual

def same : Value → Value → Bool
  | .null, .null => true
  | .bool a, .bool b => a == b
  | .number (.int m _), .number (.int n _) => m == n
  | .number (.float f _), .number (.float g _) => f == g
  | .string a, .string b => a == b
  | .array xs, .array ys => sameItems xs ys
  | .object xs, .object ys => xs.length == ys.length && sameFields xs ys
  | _, _ => false

def sameItems : List Value → List Value → Bool
  | [], [] => true
  | x :: xs, y :: ys => same x y && sameItems xs ys
  | _, _ => false

def sameFields : List (String × Value) → List (String × Value) → Bool
  | [], _ => true
  | (k, x) :: xs, ys =>
    (match Keyed.get? k ys with
      | some y => same x y
      | none => false) && sameFields xs ys

end

def containedIn (needle : Value) (items : List Value) : Bool :=
  items.any fun item => item.agrees needle

def elements : Value → List Value
  | .array items => items
  | .null => []
  | other => [other]

-- The elements of `extra` that are not in `base`, each once, in order.
def missingFrom (base : List Value) : List Value → List Value
  | [] => []
  | x :: xs => if x.containedIn base then missingFrom base xs else x :: missingFrom (base ++ [x]) xs

def union (base extra : Value) : Value :=
  .array (base.elements ++ missingFrom base.elements extra.elements)

end Value

namespace Record

def agrees (a b : Record) : Bool :=
  a.length == b.length && Value.agreesFields a b

end Record

end RecordSync
