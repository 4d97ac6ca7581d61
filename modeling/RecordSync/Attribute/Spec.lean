import RecordSync.Document.Decode

set_option autoImplicit false

namespace RecordSync

-- What is to become of an attribute, or of a whole object: created if missing and then left alone,
-- removed, kept at the latest value, or joined into the array that is there.
inductive Ensure where
  | present
  | absent
  | latest
  | merge
  deriving DecidableEq, Repr

namespace Ensure

def render : Ensure → String
  | .present => "EXISTS"
  | .absent => "ABSENT"
  | .latest => "LAST"
  | .merge => "MERGE"

def names : List (String × Ensure) :=
  [("EXISTS", .present), ("ABSENT", .absent), ("LAST", .latest), ("MERGE", .merge)]

def toValue (e : Ensure) : Value := .string e.render

def ofValue (origin : Origin) : Value → Decoded Ensure := Decode.choice origin names

end Ensure

inductive Kind where
  | string
  | int
  | float
  | bool
  | null
  | array
  | binary
  deriving DecidableEq, Repr

namespace Kind

def render : Kind → String
  | .string => "string"
  | .int => "int"
  | .float => "float"
  | .bool => "bool"
  | .null => "null"
  | .array => "array"
  | .binary => "binary"

def names : List (String × Kind) :=
  [("string", .string), ("int", .int), ("float", .float), ("bool", .bool), ("null", .null),
    ("array", .array), ("binary", .binary)]

def toValue (k : Kind) : Value := .string k.render

def ofValue : Value → Decoded Kind := Decode.choice .tree names

end Kind

-- A link to the object of another collection whose attribute has the same value.
structure RelationLink where
  collection : String
  attributeName : String
  deriving DecidableEq, Repr

namespace RelationLink

def shape : Shape := ⟨"RelationLink", ["collection", "attribute"], ["collection", "attribute"], false⟩

def put (name : String) (v : Value) (link : RelationLink) : Decoded RelationLink := do
  match name with
  | "collection" => return { link with collection := ← Decode.string v }
  | _ => return { link with attributeName := ← Decode.string v }

def ofValue : Value → Decoded RelationLink := shape.read .tree put ⟨"", ""⟩

def toValue (link : RelationLink) : Value :=
  .object [("collection", .string link.collection), ("attribute", .string link.attributeName)]

end RelationLink

structure RewriteSpec where
  wanted : Value
  replacement : Value
  regex : Bool
  deriving DecidableEq

namespace RewriteSpec

def blank : RewriteSpec := ⟨.null, .null, true⟩

def shape : Shape := ⟨"RewriteSpec", ["match", "to", "regex"], [], false⟩

def put (name : String) (v : Value) (rule : RewriteSpec) : Decoded RewriteSpec := do
  match name with
  | "match" => return { rule with wanted := v }
  | "to" => return { rule with replacement := v }
  | _ => return { rule with regex := ← Decode.bool v }

def ofValue : Value → Decoded RewriteSpec := shape.read .tree put blank

def toValue (rule : RewriteSpec) : Value :=
  .object [("match", rule.wanted), ("to", rule.replacement), ("regex", .bool rule.regex)]

end RewriteSpec

-- An attribute as written. A null literal stands for a literal that is not given.
structure AttributeSpec where
  path : Option String
  literal : Value
  expression : Option String
  kind : Kind
  ensure : Ensure
  required : Bool
  rename : Option String
  rewrite : List RewriteSpec
  require : Option String
  unwind : Option AttributeSpec
  relation : Option RelationLink

namespace AttributeSpec

def blank : AttributeSpec :=
  ⟨none, .null, none, .string, .latest, true, none, [], none, none, none⟩

def shape : Shape :=
  ⟨"AttributeSpec", ["from", "value", "expression", "type", "ensure", "required", "rename",
    "rewrite", "require", "unwind", "relation"], [], true⟩

def put (nested : Value → Decoded AttributeSpec) (name : String) (v : Value)
    (spec : AttributeSpec) : Decoded AttributeSpec := do
  match name with
  | "from" => return { spec with path := ← Decode.option Decode.string v }
  | "value" => return { spec with literal := v }
  | "expression" => return { spec with expression := ← Decode.option Decode.string v }
  | "type" => return { spec with kind := ← Kind.ofValue v }
  | "ensure" => return { spec with ensure := ← Ensure.ofValue .tree v }
  | "required" => return { spec with required := ← Decode.bool v }
  | "rename" => return { spec with rename := ← Decode.option Decode.string v }
  | "rewrite" => return { spec with rewrite := ← Decode.list RewriteSpec.ofValue v }
  | "require" => return { spec with require := ← Decode.option Decode.string v }
  | "unwind" => return { spec with unwind := ← Decode.option nested v }
  | _ => return { spec with relation := ← Decode.option RelationLink.ofValue v }

def ofValueWithin : Nat → Value → Decoded AttributeSpec
  | 0, _ => .error .invalid
  | depth + 1, v => shape.read .tree (put (ofValueWithin depth)) blank v

def ofValue (v : Value) : Decoded AttributeSpec :=
  ofValueWithin (v.depth + 1) v

def optional (name : String) (v : Option Value) : List (String × Value) :=
  match v with
  | some v => [(name, v)]
  | none => []

def toValue : AttributeSpec → Value
  | ⟨path, literal, expression, kind, ensure, required, rename, rewrite, require, unwind, relation⟩ =>
    .object <| optional "from" (path.map .string) ++
      (if literal.isNull then [] else [("value", literal)]) ++
      optional "expression" (expression.map .string) ++
      [("type", kind.toValue), ("ensure", ensure.toValue), ("required", .bool required)] ++
      optional "rename" (rename.map .string) ++
      (if rewrite.isEmpty then [] else [("rewrite", .array (rewrite.map RewriteSpec.toValue))]) ++
      optional "require" (require.map .string) ++
      (match unwind with
        | some nested => [("unwind", nested.toValue)]
        | none => []) ++
      optional "relation" (relation.map RelationLink.toValue)

end AttributeSpec

end RecordSync
