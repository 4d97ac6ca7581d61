import RecordSync.Document.Comparison
import RecordSync.Document.Decode
import RecordSync.Document.Path

set_option autoImplicit false

namespace RecordSync

inductive Filter where
  | equals (path : String) (value : Value)
  | present (path : String)
  | all (filters : List Filter)

namespace Filter

def conjoin (f g : Filter) : Filter :=
  match f with
  | .all filters => .all (filters ++ [g])
  | other => .all [other, g]

def ofRecord (r : Record) : Filter :=
  match r with
  | [(name, value)] => .equals name value
  | fields => .all (fields.map fun (name, value) => .equals name value)

mutual

def attributes : Filter → List String
  | .equals path _ | .present path => [path]
  | .all filters => attributesAll filters

def attributesAll : List Filter → List String
  | [] => []
  | f :: fs => f.attributes ++ attributesAll fs

end

-- Whether a value that was found satisfies an equality. An array that is compared with a single
-- value does when one of its elements agrees.
def meets (wanted : Value) : Value → Bool
  | .array items =>
    if wanted.isArray then (Value.array items).agrees wanted else wanted.containedIn items
  | found => found.agrees wanted

mutual

def accepts (r : Record) : Filter → Bool
  | .equals path value =>
    match Path.getIn r path with
    | some found => meets value found
    | none => false
  | .present path =>
    match Path.getIn r path with
    | some found => !found.isNull
    | none => false
  | .all filters => acceptsAll r filters

def acceptsAll (r : Record) : List Filter → Bool
  | [] => true
  | f :: fs => f.accepts r && acceptsAll r fs

end

mutual

def toValue : Filter → Value
  | .equals path value =>
    .object [("type", .string "equals"), ("attribute", .string path), ("value", value)]
  | .present path => .object [("type", .string "present"), ("attribute", .string path)]
  | .all filters => .object [("type", .string "and"), ("filters", .array (toValues filters))]

def toValues : List Filter → List Value
  | [] => []
  | f :: fs => f.toValue :: toValues fs

end

def fieldsOf (names : List String) : Value → Decoded (List (String × Value))
  | .object fields => .ok fields
  | .array items =>
    if items.length = names.length then .ok (names.zip items) else .error .invalid
  | other => .error (.invalidType other "struct variant")

def field (name : String) (fields : List (String × Value)) : Decoded Value :=
  match Keyed.get? name fields with
  | some v => .ok v
  | none => .error (.missingField name)

def typed : Value → Decoded (String × Value)
  | .object fields => do
    let kind ← Decode.string (← field "type" fields)
    return (kind, .object (Keyed.erase "type" fields))
  | .array (kind :: rest) => do return (← Decode.string kind, .array rest)
  | .array [] => .error (.missingField "type")
  | other => .error (.invalidType other "internally tagged enum Filter")

def ofValueWithin : Nat → Value → Decoded Filter
  | 0, _ => .error .invalid
  | depth + 1, v => do
    let (kind, rest) ← typed v
    match kind with
    | "equals" =>
      let fields ← fieldsOf ["attribute", "value"] rest
      return .equals (← Decode.string (← field "attribute" fields)) (← field "value" fields)
    | "present" =>
      let fields ← fieldsOf ["attribute"] rest
      return .present (← Decode.string (← field "attribute" fields))
    | "and" =>
      let fields ← fieldsOf ["filters"] rest
      return .all (← Decode.list (ofValueWithin depth) (← field "filters" fields))
    | other => throw (.unknownVariant other ["equals", "present", "and"])

def ofValue (v : Value) : Decoded Filter :=
  ofValueWithin (v.depth + 1) v

end Filter

end RecordSync
