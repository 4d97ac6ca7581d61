import RecordSync.Attribute.Error
import RecordSync.Bundled.Script.Fold
import RecordSync.Bundled.Script.Grammar
import RecordSync.Bundled.Script.Machine

set_option autoImplicit false

namespace RecordSync.Script

def sourceName : String := "source"

def withheld : List String :=
  Token.words ++ Token.reserved ++ ["global", sourceName]

def isVariableName (key : String) : Bool :=
  match key.toList with
  | [] => false
  | c :: cs => Token.isNameStart c && cs.all Token.isNamePart && key ≠ "_" && !withheld.contains key

def variablesOf (context : Record) : List Binding :=
  ⟨sourceName, Datum.ofValue (.object context), false⟩ ::
    ((context.filter fun (k, _) => isVariableName k).map fun (k, v) =>
      ⟨k, Datum.ofValue v, false⟩).reverse

-- The operations that limits allow: their own bound or the time, whichever comes first.
def budget (pace : Nat) (limits : Limits) : Nat :=
  let time := limits.timeout * pace
  if limits.maxOperations = 0 then if time = 0 then 0x10000000000000000 else time
  else if time = 0 then limits.maxOperations
  else min limits.maxOperations time

def compile (limits : Limits) (strict : Bool) (names : List (String × Bool)) (code : String) :
    Option (List Expr) := do
  let body ← Grammar.read limits code
  let _ ← Scope.admitsAll ⟨strict, names, false⟩ body
  return Expr.busy true (Expr.foldStatements limits [] body)

def isValid (limits : Limits) (code : String) : Bool :=
  (compile limits false [] code).isSome

def run (pace : Nat) (limits : Limits) (bindings : List Binding) (body : List Expr) :
    Except ExpressionError Datum :=
  let operations := budget pace limits
  match evalBody limits (8 * operations + 64) .unit body ⟨bindings, operations⟩ with
  | (.ok d, _) => .ok d
  | (.error (.leave d), _) => .ok d
  | (.error .exhausted, _) => .error (.timeout limits.timeout)
  | (.error _, _) => .error (.runtime "")

-- The pace is the number of operations that a millisecond is taken for.
def evaluator (pace : Nat) (limits : Limits) : Evaluator := fun code context => do
  let bindings := variablesOf context
  match compile limits true (bindings.map fun b => (b.name, b.constant)) code with
  | none => .error (.compile "")
  | some body => do
    match (← run pace limits bindings body).toValue? with
    | some v => .ok v
    | none => .error (.conversion "")

end RecordSync.Script
