import RecordSync.Bundled.Script.Expr

set_option autoImplicit false

namespace RecordSync.Script

abbrev Known := List (String × Option Datum)

namespace Expr

mutual

def isIdle : Expr → Bool
  | .literal _ | .variable _ => true
  | .array items => areIdle items
  | .map fields => fieldsAreIdle fields
  | .choice _ a b => a.isIdle && b.isIdle
  | .block body => areIdle body
  | .branch condition yes no => condition.isIdle && areIdle yes && areIdle no
  | .forEach _ _ source body => source.isIdle && areIdle body
  | _ => false

def areIdle : List Expr → Bool
  | [] => true
  | e :: es => e.isIdle && areIdle es

def fieldsAreIdle : List (String × Expr) → Bool
  | [] => true
  | (_, e) :: es => e.isIdle && fieldsAreIdle es

end

def literal? : Expr → Option Datum
  | .literal d => some d
  | _ => none

def ofArray (items : List Expr) : Expr :=
  match items.mapM literal? with
  | some xs => .literal (.array xs)
  | none => .array items

def ofMap (fields : List (String × Expr)) : Expr :=
  match fields.mapM fun (k, e) => (literal? e).map fun x => (k, x) with
  | some xs => .literal (.map (Keyed.sorted xs))
  | none => .map fields

def ofBinary (limits : Limits) (op : Binary) (a b : Expr) : Expr :=
  match op, a, b with
  | .arithmetic op, .literal x, .literal y =>
    match Datum.bounded limits op x y (Datum.arithmetic op x y) with
    | some d => .literal d
    | none => .binary (.arithmetic op) a b
  | .compare op, .literal x, .literal y =>
    match Datum.compare op x y with
    | some b => .literal (.bool b)
    | none => .binary (.compare op) a b
  | op, a, b => .binary op a b

def ofChoice : Choice → Expr → Expr → Expr
  | .both, .literal (.bool true), b => b
  | .both, .literal (.bool false), _ => .literal (.bool false)
  | .both, a, .literal (.bool true) => a
  | .either, .literal (.bool false), b => b
  | .either, .literal (.bool true), _ => .literal (.bool true)
  | .either, a, .literal (.bool false) => a
  | .ifUnit, .literal .unit, b => b
  | .ifUnit, .literal d, _ => .literal d
  | op, a, b => .choice op a b

def ofBranch : Expr → List Expr → List Expr → Expr
  | .literal (.bool true), yes, _ => .block yes
  | .literal (.bool false), _, no => .block no
  | condition, [], [] => .block [condition, .literal .unit]
  | condition, yes, no => .branch condition yes no

def ofLoop : Option Expr → List Expr → Expr
  | some (.literal (.bool true)), body => .loop none body
  | some (.literal (.bool false)), _ => .literal .unit
  | condition, body => .loop condition body

def ofAssign : Expr → Option Arithmetic → Expr → Expr
  | .variable x, none, .binary (.arithmetic op) (.variable y) b =>
    if x = y then .assign (.variable x) (some op) b
    else .assign (.variable x) none (.binary (.arithmetic op) (.variable y) b)
  | target, op, value => .assign target op value

def ofRoot (root folded : Expr) : Expr :=
  match root with
  | .variable name => .variable name
  | _ => folded

-- Statements, without those that can only yield a value. The value of the last one is kept if the
-- block has a value.
def busy (valued : Bool) : List Expr → List Expr
  | [] => []
  | [e] => if !valued && e.isIdle then [] else [e]
  | e :: es => if e.isIdle then busy valued es else e :: busy valued es

def behind (known : Known) : Expr → Known
  | .declare true name (some (.literal d)) => (name, some d) :: known
  | .declare _ name _ => (name, none) :: known
  | _ => known

mutual

def fold (limits : Limits) (known : Known) : Expr → Expr
  | .literal d => .literal d
  | .variable name =>
    match Keyed.get? name known with
    | some (some d) => .literal d
    | _ => .variable name
  | .array items => ofArray (foldAll limits known items)
  | .map fields => ofMap (foldFields limits known fields)
  | .unary op a => .unary op (a.fold limits known)
  | .binary op a b => ofBinary limits op (a.fold limits known) (b.fold limits known)
  | .choice op a b => ofChoice op (a.fold limits known) (b.fold limits known)
  | .chain root way => .chain (ofRoot root (root.fold limits known)) (foldWay limits known way)
  | .call name args => .call name (foldAll limits known args)
  | .block body => .block (busy true (foldStatements limits known body))
  | .branch condition yes no =>
    ofBranch (condition.fold limits known) (busy true (foldStatements limits known yes))
      (busy true (foldStatements limits known no))
  | .loop condition body =>
    ofLoop (foldOption limits known condition) (busy false (foldStatements limits known body))
  | .forEach name counter source body =>
    let inner := (name, none) :: match counter with
      | some counter => (counter, none) :: known
      | none => known
    .forEach name counter (source.fold limits known) (busy false (foldStatements limits inner body))
  | .declare constant name value => .declare constant name (foldOption limits known value)
  | .assign target op value =>
    ofAssign (ofRoot target (target.fold limits known)) op (value.fold limits known)
  | .leave value => .leave (foldOption limits known value)
  | .throw value => .throw (foldOption limits known value)
  | .exitLoop value => .exitLoop (foldOption limits known value)
  | .nextRound => .nextRound

def foldAll (limits : Limits) (known : Known) : List Expr → List Expr
  | [] => []
  | e :: es => e.fold limits known :: foldAll limits known es

def foldFields (limits : Limits) (known : Known) : List (String × Expr) → List (String × Expr)
  | [] => []
  | (k, e) :: es => (k, e.fold limits known) :: foldFields limits known es

def foldWay (limits : Limits) (known : Known) : List Link → List Link
  | [] => []
  | .index i :: way => .index (i.fold limits known) :: foldWay limits known way
  | .method name args :: way =>
    .method name (foldAll limits known args) :: foldWay limits known way
  | link :: way => link :: foldWay limits known way

def foldOption (limits : Limits) (known : Known) : Option Expr → Option Expr
  | none => none
  | some e => some (e.fold limits known)

def foldStatements (limits : Limits) (known : Known) : List Expr → List Expr
  | [] => []
  | e :: es =>
    let e := e.fold limits known
    e :: foldStatements limits (behind known e) es

end

end Expr

end RecordSync.Script
