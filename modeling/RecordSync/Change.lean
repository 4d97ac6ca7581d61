import RecordSync.Document.Decode

set_option autoImplicit false

namespace RecordSync

structure Uid where
  attributeName : String
  value : String
  deriving DecidableEq, Repr

namespace Uid

def ofText (value : String) : Uid := ⟨"id", value⟩

def render (uid : Uid) : String := uid.attributeName ++ "=" ++ uid.value

def toValue (uid : Uid) : Value :=
  .object [("attribute_name", .string uid.attributeName), ("value", .string uid.value)]

def shape : Shape := ⟨"Uid", ["attribute_name", "value"], ["attribute_name", "value"], false⟩

def ofValue : Value → Decoded Uid :=
  shape.read .tree (fun name v uid => do
    match name with
    | "attribute_name" => return { uid with attributeName := ← Decode.string v }
    | _ => return { uid with value := ← Decode.string v }) ⟨"", ""⟩

end Uid

inductive Action where
  | replace
  | remove
  | add
  deriving DecidableEq, Repr

namespace Action

def render : Action → String
  | .replace => "REPLACE"
  | .remove => "REMOVE"
  | .add => "ADD"

def names : List (String × Action) :=
  [("REPLACE", .replace), ("REMOVE", .remove), ("ADD", .add)]

def toValue (a : Action) : Value := .string a.render

def ofValue : Value → Decoded Action := Decode.choice .tree names

end Action

-- The change of one attribute. An addition holds only elements that are missing.
inductive Change where
  | replace (value : Value)
  | remove
  | add (items : List Value)
  deriving DecidableEq

namespace Change

def action : Change → Action
  | .replace _ => .replace
  | .remove => .remove
  | .add _ => .add

def value? : Change → Option Value
  | .replace value => some value
  | .remove => none
  | .add items => some (.array items)

def toValue (c : Change) : Value :=
  .object <| ("action", c.action.toValue) :: (c.value?.toList.map fun v => ("value", v))

def build (action : Action) (content : Option Value) : Decoded Change :=
  match action, content with
  | .replace, some v => .ok (.replace v)
  | .add, some v => (Decode.list .ok v).map .add
  | .remove, none => .ok .remove
  | .remove, some v => (Decode.unit v).map fun _ => .remove
  | _, none => .error (.missingField "value")

def ofValue : Value → Decoded Change
  | .object fields =>
    match Keyed.get? "action" fields with
    | some action => do build (← Action.ofValue action) (Keyed.get? "value" fields)
    | none => .error (.missingField "action")
  | .array [action, content] => do build (← Action.ofValue action) (some content)
  | other => .error (.invalidType other "adjacently tagged enum DiffEntry")

end Change

abbrev Changes := Keyed Change

namespace Changes

def toValue (changes : Changes) : Value :=
  .object (Keyed.mapValues Change.toValue changes)

end Changes

structure Delta where
  add : Record
  remove : Record
  replace : Record
  clear : List String
  deriving DecidableEq

namespace Delta

def empty : Delta := ⟨[], [], [], []⟩

def isEmpty (d : Delta) : Bool :=
  d.add.isEmpty && d.remove.isEmpty && d.replace.isEmpty && d.clear.isEmpty

def insertAdd (name : String) (value : Value) (d : Delta) : Delta :=
  { d with add := Keyed.insert name value d.add }

def insertRemove (name : String) (value : Value) (d : Delta) : Delta :=
  { d with remove := Keyed.insert name value d.remove }

def insertReplace (name : String) (value : Value) (d : Delta) : Delta :=
  { d with replace := Keyed.insert name value d.replace }

def appendClear (name : String) (d : Delta) : Delta :=
  { d with clear := d.clear ++ [name] }

def record (d : Delta) : String × Change → Delta
  | (name, .replace value) => d.insertReplace name value
  | (name, .remove) => d.appendClear name
  | (name, .add items) => d.insertAdd name (.array items)

def ofChanges (changes : Changes) : Delta :=
  changes.foldl record empty

def dropRepeats : List String → List String
  | [] => []
  | [x] => [x]
  | x :: y :: rest => if x = y then dropRepeats (y :: rest) else x :: dropRepeats (y :: rest)

def names (d : Delta) : List String :=
  Keyed.keys d.add ++ Keyed.keys d.remove ++ Keyed.keys d.replace ++ d.clear

def affected (d : Delta) : List String :=
  dropRepeats (d.names.mergeSort fun a b => decide (a ≤ b))

def recordField (name : String) (r : Record) : List (String × Value) :=
  if r.isEmpty then [] else [(name, .object r)]

def toValue (d : Delta) : Value :=
  .object <| recordField "add" d.add ++ recordField "remove" d.remove ++
    recordField "replace" d.replace ++
    if d.clear.isEmpty then [] else [("clear", .ofStrings d.clear)]

def shape : Shape := ⟨"AttributeDelta", ["add", "remove", "replace", "clear"], [], false⟩

def ofValue : Value → Decoded Delta :=
  shape.read .tree (fun name v d => do
    match name with
    | "add" => return { d with add := ← Decode.record v }
    | "remove" => return { d with remove := ← Decode.record v }
    | "replace" => return { d with replace := ← Decode.record v }
    | _ => return { d with clear := ← Decode.list Decode.string v }) empty

end Delta

end RecordSync
