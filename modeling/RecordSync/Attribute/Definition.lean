import RecordSync.Attribute.Error
import RecordSync.Pattern

set_option autoImplicit false

namespace RecordSync

inductive Source where
  | literal (value : Value)
  | path (path : String)
  | expression (code : String)
  deriving DecidableEq

inductive RewriteRule where
  | whole (wanted replacement : Value)
  | regex (pattern : Pattern) (replacement : String)

namespace RewriteRule

def ofSpec (compile : Pattern.Compiler) (name : String) (index : Nat) (rule : RewriteSpec) :
    Except MappingError RewriteRule :=
  if rule.wanted.isNull || rule.replacement.isNull then
    .error (.definition name (.rewriteIncomplete index))
  else if !rule.regex then .ok (.whole rule.wanted rule.replacement)
  else
    match rule.wanted, rule.replacement with
    | .string text, .string replacement =>
      match compile text with
      | .ok pattern => .ok (.regex pattern replacement)
      | .error message => .error (.definition name (.rewritePattern index message))
    | _, _ => .error (.definition name (.rewriteNotText index))

def ofSpecs (compile : Pattern.Compiler) (name : String) :
    Nat → List RewriteSpec → Except MappingError (List RewriteRule)
  | _, [] => .ok []
  | index, rule :: rules => do
    let first ← ofSpec compile name index rule
    let rest ← ofSpecs compile name (index + 1) rules
    return first :: rest

end RewriteRule

structure AttributeDefinition where
  name : String
  sources : List Source
  kind : Kind
  ensure : Ensure
  required : Bool
  rewrite : List RewriteRule
  require : Option Pattern
  unwind : Option AttributeDefinition
  relation : Option RelationLink

namespace AttributeDefinition

def sourcesOf (spec : AttributeSpec) : List Source :=
  (if spec.literal.isNull then [] else [.literal spec.literal]) ++
    spec.path.toList.map .path ++ spec.expression.toList.map .expression

def checkPath (name : String) : Option String → Except MappingError Unit
  | none => .ok ()
  | some path =>
    match Path.segments path with
    | .ok _ => .ok ()
    | .error e => .error (.definition name (.path e))

def readRequire (compile : Pattern.Compiler) (name : String) :
    Option String → Except MappingError (Option Pattern)
  | none => .ok none
  | some text =>
    match compile text with
    | .ok pattern => .ok (some pattern)
    | .error message => .error (.definition name (.requirePattern message))

def ofSpec (compile : Pattern.Compiler) (key : String) :
    AttributeSpec → Except MappingError AttributeDefinition
  | ⟨path, literal, expression, kind, ensure, required, rename, rewrite, require, unwind, relation⟩ => do
    let name := rename.getD key
    if name.isEmpty then throw (.definition key .emptyName)
    if ensure = .merge && kind != .array then throw (.definition name .mergeNeedsArray)
    checkPath name path
    let rules ← RewriteRule.ofSpecs compile name 0 rewrite
    let pattern ← readRequire compile name require
    let nested ← match unwind with
      | some spec => (ofSpec compile name spec).map some
      | none => pure none
    let sources := sourcesOf
      ⟨path, literal, expression, kind, ensure, required, rename, rewrite, require, none, relation⟩
    return ⟨name, sources, kind, ensure, required, rules, pattern, nested, relation⟩

def ofEntry (compile : Pattern.Compiler) (entry : String × Value) :
    Except MappingError AttributeDefinition :=
  match AttributeSpec.ofValue entry.2 with
  | .ok spec => ofSpec compile entry.1 spec
  | .error e => .error (.definition entry.1 (.unreadable e))

def ofRecord (compile : Pattern.Compiler) (specs : Record) :
    Except MappingError (List AttributeDefinition) :=
  specs.mapM (ofEntry compile)

end AttributeDefinition

end RecordSync
