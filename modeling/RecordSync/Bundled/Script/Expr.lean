import RecordSync.Bundled.Script.Operator

set_option autoImplicit false

namespace RecordSync.Script

inductive Unary where
  | negate
  | affirm
  | not
  deriving DecidableEq, Repr

inductive Binary where
  | arithmetic (op : Arithmetic)
  | compare (op : Comparison)
  | isIn
  | range (closed : Bool)
  deriving DecidableEq, Repr

inductive Choice where
  | both
  | either
  | ifUnit
  deriving DecidableEq, Repr

mutual

inductive Expr where
  | literal (value : Datum)
  | variable (name : String)
  | array (items : List Expr)
  | map (fields : List (String × Expr))
  | unary (op : Unary) (a : Expr)
  | binary (op : Binary) (a b : Expr)
  | choice (op : Choice) (a b : Expr)
  | chain (root : Expr) (way : List Link)
  | call (name : String) (args : List Expr)
  | block (body : List Expr)
  | branch (condition : Expr) (yes no : List Expr)
  | loop (condition : Option Expr) (body : List Expr)
  | forEach (name : String) (counter : Option String) (source : Expr) (body : List Expr)
  | declare (constant : Bool) (name : String) (value : Option Expr)
  | assign (target : Expr) (op : Option Arithmetic) (value : Expr)
  | leave (value : Option Expr)
  | throw (value : Option Expr)
  | exitLoop (value : Option Expr)
  | nextRound

inductive Link where
  | property (name : String)
  | index (i : Expr)
  | method (name : String) (args : List Expr)
  | guard

end

namespace Link

def isMethod : Link → Bool
  | .method _ _ => true
  | _ => false

end Link

namespace Expr

def place? : Expr → Option (String × List Link)
  | .variable name => some (name, [])
  | .chain (.variable name) way => if way.any Link.isMethod then none else some (name, way)
  | _ => none

def isUntrue : Expr → Bool
  | .literal (.bool _) => false
  | .literal _ | .array _ | .map _ => true
  | _ => false

def isSingle : Expr → Bool
  | .literal (.array _) | .literal (.string _) => false
  | .literal _ | .map _ => true
  | _ => false

def isVerdict : Expr → Bool
  | .choice .both _ _ | .choice .either _ _ => true
  | _ => false

def mayIndex (container i : Expr) : Bool :=
  match container, i with
  | .map _, .literal (.string _) => true
  | .literal (.int _), .literal (.int _) | .literal (.string _), .literal (.int _)
  | .array _, .literal (.int _) => true
  | .map _, i | .literal (.int _), i | .literal (.string _), i | .array _, i =>
    match i with
    | .literal _ => false
    | i => !i.isVerdict
  | _, _ => true

def isStatement : Expr → Bool
  | .block _ | .branch _ _ _ | .loop _ _ | .forEach _ _ _ _ | .declare _ _ _ | .assign _ _ _
  | .leave _ | .throw _ | .exitLoop _ | .nextRound => true
  | _ => false

def isCall : Expr → Bool
  | .unary _ _ | .binary _ _ _ | .call _ _ => true
  | _ => false

end Expr

structure Scope where
  strict : Bool
  names : List (String × Bool)
  inLoop : Bool

namespace Scope

def knows (s : Scope) (name : String) : Bool :=
  !s.strict || s.names.any fun (n, _) => n = name

def isConstant (s : Scope) (name : String) : Bool :=
  (Keyed.get? name s.names).getD false

def bind (s : Scope) (name : String) (constant : Bool) : Scope :=
  { s with names := (name, constant) :: s.names }

def writable (s : Scope) (target : Expr) : Bool :=
  match target.place? with
  | some (name, []) => !s.isConstant name
  | some _ => true
  | none => false

mutual

def admits (s : Scope) : Expr → Option Scope
  | .literal _ => some s
  | .variable name => if s.knows name then some s else none
  | .array items | .call _ items => s.admitsAll items
  | .map fields => s.admitsFields fields
  | .unary _ a => s.admits a
  | .binary _ a b | .choice _ a b => do
    let s ← s.admits a
    s.admits b
  | .chain root way => do
    let s ← s.admits root
    s.admitsWay way
  | .block body => (s.admitsAll body).map fun _ => s
  | .branch condition yes no => do
    let s ← s.admits condition
    let _ ← s.admitsAll yes
    let _ ← s.admitsAll no
    return s
  | .loop condition body => do
    let s ← s.admitsOption condition
    let _ ← { s with inLoop := true }.admitsAll body
    return s
  | .forEach name counter source body => do
    let s ← s.admits source
    let inner := { s with inLoop := true }.bind name false
    let inner := match counter with
      | some counter => inner.bind counter false
      | none => inner
    let _ ← inner.admitsAll body
    return s
  | .declare constant name value => (s.admitsOption value).map fun s => s.bind name constant
  | .assign target _ value => do
    let s ← s.admits target
    if s.writable target then s.admits value else none
  | .leave value | .throw value => s.admitsOption value
  | .exitLoop value => if s.inLoop then s.admitsOption value else none
  | .nextRound => if s.inLoop then some s else none

def admitsAll (s : Scope) : List Expr → Option Scope
  | [] => some s
  | e :: es => do
    let s ← s.admits e
    s.admitsAll es

def admitsFields (s : Scope) : List (String × Expr) → Option Scope
  | [] => some s
  | (_, e) :: es => do
    let s ← s.admits e
    s.admitsFields es

def admitsWay (s : Scope) : List Link → Option Scope
  | [] => some s
  | .index i :: way => do
    let s ← s.admits i
    s.admitsWay way
  | .method _ args :: way => do
    let s ← s.admitsAll args
    s.admitsWay way
  | _ :: way => s.admitsWay way

def admitsOption (s : Scope) : Option Expr → Option Scope
  | none => some s
  | some e => s.admits e

end

end Scope

end RecordSync.Script
