import RecordSync.Attribute.Coercion
import RecordSync.Document.Path

set_option autoImplicit false

namespace RecordSync

inductive DefinitionFault where
  | unreadable (e : DecodeError)
  | emptyName
  | mergeNeedsArray
  | path (e : PathError)
  | rewriteIncomplete (index : Nat)
  | rewriteNotText (index : Nat)
  | rewritePattern (index : Nat) (message : String)
  | requirePattern (message : String)
  | duplicateName
  | stated (message : String)

namespace DefinitionFault

def message : DefinitionFault → String
  | .unreadable e => e.message
  | .emptyName => "output name is empty"
  | .mergeNeedsArray => "MERGE requires type 'array'"
  | .path e => e.message
  | .rewriteIncomplete i => s!"rewrite rule {i} needs both 'match' and 'to'"
  | .rewriteNotText i => s!"regex rewrite rule {i} needs string 'match' and 'to'"
  | .rewritePattern i message => s!"rewrite rule {i}: {message}"
  | .requirePattern message => s!"require: {message}"
  | .duplicateName => "output name declared twice"
  | .stated message => message

end DefinitionFault

inductive ResolutionFault where
  | missing
  | mismatch (text pattern : String)
  | uncoercible (e : CoercionError)
  | stated (message : String)

namespace ResolutionFault

def message : ResolutionFault → String
  | .missing => "required attribute has no value"
  | .mismatch text pattern => s!"value '{text}' does not match '{pattern}'"
  | .uncoercible e => e.message
  | .stated message => message

end ResolutionFault

inductive MappingError where
  | definition (attributeName : String) (fault : DefinitionFault)
  | resolution (attributeName : String) (fault : ResolutionFault)

namespace MappingError

def attributeName : MappingError → String
  | .definition name _ | .resolution name _ => name

def code : MappingError → String
  | .definition _ _ => "MAPPING_CONFIGURATION"
  | .resolution _ _ => "MAPPING_RESOLUTION"

def message : MappingError → String
  | .definition name fault => s!"invalid definition for attribute '{name}': {fault.message}"
  | .resolution name fault => s!"cannot resolve attribute '{name}': {fault.message}"

end MappingError

inductive ExpressionError where
  | compile (message : String)
  | runtime (message : String)
  | timeout (milliseconds : Nat)
  | conversion (message : String)
  deriving DecidableEq, Repr

namespace ExpressionError

def message : ExpressionError → String
  | .compile m => s!"expression compilation failed: {m}"
  | .runtime m => s!"expression runtime error: {m}"
  | .timeout n => s!"expression timed out after {n}ms"
  | .conversion m => s!"expression value conversion failed: {m}"

end ExpressionError

abbrev Evaluator := String → Record → Except ExpressionError Value

namespace Evaluator

-- A key of the record stands for its value, and there is no other code.
def ofKeys : Evaluator := fun code context =>
  match Keyed.get? code context with
  | some v => .ok v
  | none => .error (.compile s!"Variable not found: {code}")

def condition (evaluate : Evaluator) (code : String) (context : Record) :
    Except ExpressionError Bool :=
  (evaluate code context).map Value.isTruthy

end Evaluator

end RecordSync
