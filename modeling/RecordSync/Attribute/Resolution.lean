import RecordSync.Attribute.Definition
import RecordSync.Document.Comparison

set_option autoImplicit false

namespace RecordSync

namespace AttributeDefinition

def unwindKey : String := "root"

def consult (evaluate : Evaluator) (record : Record) (value : Value) : Source → Value
  | .literal v => v
  | .path path => (Path.getIn record path).getD value
  | .expression code =>
    match evaluate code record with
    | .ok v => v
    | .error _ => value

def rawValue (evaluate : Evaluator) (record : Record) (sources : List Source) : Value :=
  sources.foldl (consult evaluate record) .null

-- A type other than array takes the first element of an array.
def firstElement (kind : Kind) : Value → Value
  | .array items => if kind = .array then .array items else items.head?.getD .null
  | other => other

def patternText? : Value → Option String
  | .string s => some s
  | .number n => some n.render
  | .bool b => some (Value.bool b).render
  | _ => none

def applyRule (value : Value) : RewriteRule → Option Value
  | .whole wanted replacement => if value.agrees wanted then some replacement else none
  | .regex pattern replacement =>
    match patternText? value with
    | some text =>
      if pattern.accepts text then some (.string (pattern.replaceAll replacement text)) else none
    | none => none

def rewriteOne (rules : List RewriteRule) (value : Value) : Value :=
  (rules.findSome? (applyRule value)).getD value

def rewriteValue (rules : List RewriteRule) : Value → Value
  | .array items => if rules.isEmpty then .array items else .array (items.map (rewriteOne rules))
  | other => rewriteOne rules other

def mismatch? (require : Option Pattern) (value : Value) : Option ResolutionFault :=
  match require with
  | none => none
  | some pattern =>
    (value.elements.find? fun item => !pattern.accepts item.scalarText).map fun item =>
      .mismatch item.scalarText pattern.text

def leaveOut (name : String) (required lenient : Bool) : Except MappingError (Option Value) :=
  if required && !lenient then .error (.resolution name .missing) else .ok none

-- The value of an attribute for a record. Elements that are unwound are resolved leniently: one
-- without a value is dropped.
def resolve (evaluate : Evaluator) (lenient : Bool) (record : Record) :
    AttributeDefinition → Except MappingError (Option Value)
  | ⟨name, sources, kind, ensure, required, rewrite, require, unwind, _⟩ => do
    if ensure = .absent then return none
    let value := rewriteValue rewrite (firstElement kind (rawValue evaluate record sources))
    if value.isEmpty then leaveOut name required lenient
    else
      match mismatch? require value with
      | some fault => throw (.resolution name fault)
      | none =>
        match Coercion.coerce kind value with
        | .error e => throw (.resolution name (.uncoercible e))
        | .ok value =>
          let value ← match unwind, value with
            | some nested, .array items => do
              let survivors ← items.mapM fun item =>
                resolve evaluate true [(unwindKey, item)] nested
              pure (.array (survivors.filterMap id))
            | _, value => pure value
          if value.isEmpty then leaveOut name required lenient else return some value

end AttributeDefinition

end RecordSync
