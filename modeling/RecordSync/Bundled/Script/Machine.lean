import RecordSync.Bundled.Script.Expr
import RecordSync.Bundled.Script.Function

set_option autoImplicit false

namespace RecordSync.Script

inductive Exit where
  | failed
  | exhausted
  | leave (value : Datum)
  | exitLoop (value : Datum)
  | nextRound

structure Binding where
  name : String
  value : Datum
  constant : Bool

structure Machine where
  bindings : List Binding
  budget : Nat

def Machine.unwind (depth : Nat) (m : Machine) : Machine :=
  { m with bindings := m.bindings.drop (m.bindings.length - depth) }

abbrev Eval (α : Type) := ExceptT Exit (StateM Machine) α

namespace Eval

variable {α : Type}

def orFail (x : Option α) : Eval α :=
  match x with
  | some a => return a
  | none => throw .failed

def spend (n : Nat) : Eval Unit := do
  let m ← get
  if m.budget < n then throw .exhausted else set { m with budget := m.budget - n }

def truth : Datum → Eval Bool
  | .bool b => return b
  | _ => throw .failed

def binding (name : String) : Eval Binding := do
  orFail ((← get).bindings.find? fun b => b.name = name)

def declare (name : String) (value : Datum) (constant : Bool) : Eval Unit :=
  modify fun m => { m with bindings := ⟨name, value, constant⟩ :: m.bindings }

def replaceFirst (name : String) (value : Datum) : List Binding → List Binding
  | [] => []
  | b :: bs => if b.name = name then { b with value } :: bs else b :: replaceFirst name value bs

def store (name : String) (value : Datum) : Eval Unit :=
  modify fun m => { m with bindings := replaceFirst name value m.bindings }

def inScope (x : Eval α) : Eval α := do
  let depth := (← get).bindings.length
  let a ← x
  modify (Machine.unwind depth)
  return a

def round (body : Eval Datum) : Eval (Option Datum) := fun m =>
  let depth := m.bindings.length
  match body m with
  | (.ok _, m) => (.ok none, m.unwind depth)
  | (.error .nextRound, m) => (.ok none, m.unwind depth)
  | (.error (.exitLoop value), m) => (.ok (some value), m.unwind depth)
  | (.error e, m) => (.error e, m)

end Eval

inductive Step where
  | property (name : String)
  | index (i : Datum)
  | method (name : String) (args : List Datum)
  | guard

namespace Step

def place? : Step → Option Datum
  | .property name => some (.string name)
  | .index i => some i
  | _ => none

-- Where a way ends, and what its start becomes if something on the way changes it. A variable holds
-- the start if `held`, and then it holds the members of containers too.
def walk (limits : Limits) : List Step → Bool → Datum → Option (Datum × Option Datum)
  | [], _, d => some (d, none)
  | .guard :: steps, held, d => if d.isUnit then some (.unit, none) else walk limits steps held d
  | .method name args :: steps, held, d => do
    let (value, changed) ← Function.call limits held name (d :: args)
    let (last, _) ← walk limits steps false value
    return (last, changed)
  | .index i :: steps, _, d => do
    let (last, changed) ← walk limits steps (Function.isContainer d) (← d.index? i)
    return (last, changed.bind fun x => d.replace? i x)
  | .property name :: steps, held, d =>
    match d with
    | .map _ => do
      let (last, changed) ← walk limits steps true (← d.index? (.string name))
      return (last, changed.bind fun x => d.replace? (.string name) x)
    | d =>
      if Function.fields.contains name then do
        let (value, _) ← Function.call limits held name [d]
        let (last, _) ← walk limits steps false value
        return (last, none)
      else none

def update (f : Datum → Option Datum) : List Step → Datum → Option Datum
  | [], d => f d
  | step :: steps, d => do
    let place ← step.place?
    d.replace? place (← update f steps (← d.index? place))

end Step

def applyUnary : Unary → Datum → Option Datum
  | .negate, d => d.negate
  | .affirm, d => d.affirm
  | .not, .bool b => some (.bool !b)
  | .not, _ => none

def applyBinary (limits : Limits) : Binary → Datum → Datum → Option Datum
  | .arithmetic op, a, b => Datum.bounded limits op a b (Datum.arithmetic op a b)
  | .compare op, a, b => (Datum.compare op a b).map .bool
  | .isIn, a, b => (b.holds a).map .bool
  | .range closed, .int first, .int last => some (.range first last closed)
  | .range _, _, _ => none

def members? (most : Nat) : Datum → Option (List Datum)
  | .array items => some items
  | .string s => some (s.toList.map .char)
  | .range first last closed =>
    let count := min most (last - first + if closed then 1 else 0).toNat
    some ((List.range count).map fun n => .int (first + Int.ofNat n))
  | _ => none

-- The operations of an expression, apart from those of its operands. A statement is one operation
-- as such and one more as an operand, all else the other way round.
def operations (asStatement : Bool) (e : Expr) : Nat :=
  if e.isCall then 1 else if e.isStatement = asStatement then 1 else 2

def wayOperations (way : List Link) : Nat :=
  let calls := (way.filter Link.isMethod).length
  let steps := match way with
    | [.property _] | [.index (.literal _)] | [.method _ []] => 0
    | way => way.length
  steps + way.length + calls

def isVariable : Expr → Bool
  | .variable _ => true
  | _ => false

mutual

-- The value of an operand. The first argument of this function and of those below bounds the depth
-- of the recursion.
def eval (limits : Limits) : Nat → Expr → Eval Datum
  | 0, _ => throw .exhausted
  | fuel + 1, e => do
    Eval.spend (operations false e)
    evalParts limits fuel e

def evalParts (limits : Limits) : Nat → Expr → Eval Datum
  | 0, _ => throw .exhausted
  | fuel + 1, e =>
    match e with
    | .literal d => return d
    | .variable name => do return (← Eval.binding name).value
    | .array items => do return .array (← evalItems limits fuel .zero items)
    | .map fields => do return .map (Keyed.sorted (← evalFields limits fuel .zero fields))
    | .unary .not a => do Eval.orFail (applyUnary .not (← eval limits fuel a))
    | .unary op a => do
      let a ← evalFirst limits fuel a
      Eval.spend 1
      Eval.orFail (applyUnary op a)
    | .binary .isIn a b => evalCall limits fuel "contains" [b, a]
    | .binary op a b => do
      let a ← eval limits fuel a
      let b ← eval limits fuel b
      Eval.orFail (applyBinary limits op a b)
    | .choice op a b => evalChoice limits fuel op a b
    | .chain root way => evalChain limits fuel root way
    | .call name args => evalCall limits fuel name args
    | .block body => Eval.inScope (evalBody limits fuel .unit body)
    | .branch condition yes no => do
      let taken := if ← Eval.truth (← eval limits fuel condition) then yes else no
      Eval.inScope (evalBody limits fuel .unit taken)
    | .loop condition body => evalLoop limits fuel condition body
    | .forEach name counter source body => do
      let source ← eval limits fuel source
      let xs ← Eval.orFail (members? ((← get).budget + 1) source)
      evalRounds limits fuel name counter body 0 xs
    | .declare constant name value => do
      Eval.declare name (← evalOption limits fuel value) constant
      return .unit
    | .assign target op value => evalAssign limits fuel target op value
    | .leave value => do throw (.leave (← evalOption limits fuel value))
    | .throw value => do
      let _ ← evalOption limits fuel value
      throw .failed
    | .exitLoop value => do throw (.exitLoop (← evalOption limits fuel value))
    | .nextRound => throw .nextRound

def evalFirst (limits : Limits) : Nat → Expr → Eval Datum
  | 0, _ => throw .exhausted
  | fuel + 1, e => if isVariable e then evalParts limits fuel e else eval limits fuel e

def evalAll (limits : Limits) : Nat → List Expr → Eval (List Datum)
  | 0, _ => throw .exhausted
  | _, [] => return []
  | fuel + 1, e :: es => do
    let x ← eval limits fuel e
    return x :: (← evalAll limits fuel es)

def evalItems (limits : Limits) : Nat → Sizes → List Expr → Eval (List Datum)
  | 0, _, _ => throw .exhausted
  | _, _, [] => return []
  | fuel + 1, sizes, e :: es => do
    let x ← eval limits fuel e
    let sizes := (sizes.add x.sizes).add ⟨1, 0, 0⟩
    if !sizes.fits limits then throw .failed
    return x :: (← evalItems limits fuel sizes es)

def evalFields (limits : Limits) :
    Nat → Sizes → List (String × Expr) → Eval (List (String × Datum))
  | 0, _, _ => throw .exhausted
  | _, _, [] => return []
  | fuel + 1, sizes, (k, e) :: es => do
    let x ← eval limits fuel e
    let sizes := (sizes.add x.sizes).add ⟨0, 1, 0⟩
    if !sizes.fits limits then throw .failed
    return (k, x) :: (← evalFields limits fuel sizes es)

def evalOption (limits : Limits) : Nat → Option Expr → Eval Datum
  | 0, _ => throw .exhausted
  | _, none => return .unit
  | fuel + 1, some e => eval limits fuel e

def evalCall (limits : Limits) : Nat → String → List Expr → Eval Datum
  | 0, _, _ => throw .exhausted
  | fuel + 1, name, .variable x :: args => do
    let args ← evalAll limits fuel args
    Eval.spend 1
    let b ← Eval.binding x
    let (value, changed) ←
      Eval.orFail (Function.call limits (!b.constant) name (b.value :: args))
    match changed with
    | some d => if !b.constant then Eval.store x d
    | none => pure ()
    return value
  | fuel + 1, name, args => do
    let args ← evalAll limits fuel args
    Eval.spend 1
    return (← Eval.orFail (Function.call limits false name args)).1

def evalChain (limits : Limits) : Nat → Expr → List Link → Eval Datum
  | 0, _, _ => throw .exhausted
  | fuel + 1, .variable name, way => do
    let steps ← evalWay limits fuel way
    Eval.spend (wayOperations way + 1)
    let b ← Eval.binding name
    let (value, changed) ← Eval.orFail (Step.walk limits steps true b.value)
    match changed with
    | some d => if b.constant then throw .failed else Eval.store name d
    | none => pure ()
    return value
  | fuel + 1, root, way => do
    let steps ← evalWay limits fuel way
    let start ← eval limits fuel root
    Eval.spend (wayOperations way)
    return (← Eval.orFail (Step.walk limits steps false start)).1

def evalWay (limits : Limits) : Nat → List Link → Eval (List Step)
  | 0, _ => throw .exhausted
  | _, [] => return []
  | fuel + 1, link :: way => do
    let step ← match link with
      | .property name => pure (Step.property name)
      | .guard => pure Step.guard
      | .index (.literal d) => pure (Step.index d)
      | .index i => do pure (Step.index (← eval limits fuel i))
      | .method name args => do pure (Step.method name (← evalAll limits fuel args))
    return step :: (← evalWay limits fuel way)

def evalAssign (limits : Limits) : Nat → Expr → Option Arithmetic → Expr → Eval Datum
  | 0, _, _, _ => throw .exhausted
  | fuel + 1, target, op, value => do
    let value ← eval limits fuel value
    let (name, way) ← Eval.orFail target.place?
    let steps ← evalWay limits fuel (way.filter fun link => link matches .property _ | .index _)
    Eval.spend (wayOperations way + 1)
    let b ← Eval.binding name
    if b.constant then throw .failed
    let put (old : Datum) := match op with
      | none => some value
      | some op => Datum.bounded limits op old value (Datum.accumulate op old value)
    Eval.store name (← Eval.orFail (Step.update put steps b.value))
    return .unit

def evalChoice (limits : Limits) : Nat → Choice → Expr → Expr → Eval Datum
  | 0, _, _, _ => throw .exhausted
  | fuel + 1, .both, a, b => do
    if ← Eval.truth (← eval limits fuel a) then
      return .bool (← Eval.truth (← eval limits fuel b))
    else return .bool false
  | fuel + 1, .either, a, b => do
    if ← Eval.truth (← eval limits fuel a) then return .bool true
    else return .bool (← Eval.truth (← eval limits fuel b))
  | fuel + 1, .ifUnit, a, b => do
    let x ← eval limits fuel a
    if x.isUnit then eval limits fuel b else return x

def evalBody (limits : Limits) : Nat → Datum → List Expr → Eval Datum
  | 0, _, _ => throw .exhausted
  | _, last, [] => return last
  | fuel + 1, _, e :: es => do
    Eval.spend (operations true e)
    let x ← evalParts limits fuel e
    evalBody limits fuel x es

def evalLoop (limits : Limits) : Nat → Option Expr → List Expr → Eval Datum
  | 0, _, _ => throw .exhausted
  | fuel + 1, condition, body => do
    if body.isEmpty then Eval.spend 1
    let goesOn ← match condition with
      | none => pure true
      | some c => do Eval.truth (← eval limits fuel c)
    if goesOn then
      match ← Eval.round (evalBody limits fuel .unit body) with
      | some value => return value
      | none => evalLoop limits fuel condition body
    else return .unit

def evalRounds (limits : Limits) :
    Nat → String → Option String → List Expr → Int → List Datum → Eval Datum
  | 0, _, _, _, _, _ => throw .exhausted
  | _, _, _, _, _, [] => return .unit
  | fuel + 1, name, counter, body, count, x :: xs => do
    if body.isEmpty then Eval.spend 1
    let once : Eval Datum := do
      match counter with
      | some counter => Eval.declare counter (.int count) false
      | none => pure ()
      Eval.declare name x false
      evalBody limits fuel .unit body
    match ← Eval.round once with
    | some value => return value
    | none => evalRounds limits fuel name counter body (count + 1) xs

end

end RecordSync.Script
