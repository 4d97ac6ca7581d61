import RecordSync.Document.Value
import RecordSync.Number.Numeral
import RecordSync.Text.Pieces

set_option autoImplicit false

namespace RecordSync

inductive PathError where
  | invalid (path : String)
  | notContainer (path segment : String)
  | outOfBounds (path segment : String)
  deriving DecidableEq, Repr

namespace PathError

def kind : PathError → String
  | .invalid _ => "invalid_path"
  | .notContainer _ _ => "not_a_container"
  | .outOfBounds _ _ => "index_out_of_bounds"

def message : PathError → String
  | .invalid path => s!"invalid path '{path}'"
  | .notContainer path segment =>
    s!"cannot descend into '{segment}' of path '{path}': not a map or array"
  | .outOfBounds path segment => s!"index '{segment}' out of bounds in path '{path}'"

def toValue (e : PathError) : Value :=
  .object <| ("type", .string e.kind) :: match e with
    | .invalid path => [("path", .string path)]
    | .notContainer path segment | .outOfBounds path segment =>
      [("path", .string path), ("segment", .string segment)]

end PathError

namespace Path

def segments? (path : String) : Option (List String) :=
  let parts := (Text.cut '.' path.toList).map String.ofList
  if parts.any String.isEmpty then none else some parts

def segments (path : String) : Except PathError (List String) :=
  match segments? path with
  | some parts => .ok parts
  | none => .error (.invalid path)

def extend (key segment : String) : String :=
  key ++ "." ++ segment

-- Where the reading of a path stands: at a value, or in an object with a key begun.
inductive Cursor where
  | here (value : Value)
  | inside (fields : Record) (key : String)

namespace Cursor

def value? : Cursor → Option Value
  | .here v => some v
  | .inside fields key => Keyed.get? key fields

def enter (segment : String) : Value → Option Cursor
  | .object fields => some (.inside fields segment)
  | .array items => (Numeral.index? segment).bind fun i => (items[i]?).map .here
  | _ => none

def steps (segment : String) : Cursor → List Cursor
  | .here v => (enter segment v).toList
  | .inside fields key =>
    .inside fields (extend key segment) ::
      ((Keyed.get? key fields).bind (enter segment)).toList

def find : List String → Cursor → Option Value
  | [], c => c.value?
  | segment :: rest, c => (c.steps segment).findSome? (find rest)

end Cursor

def get (root : Value) (path : String) : Option Value :=
  (segments? path).bind fun parts => (Cursor.here root).find parts

def getIn (fields : Record) (path : String) : Option Value :=
  get (.object fields) path

def contains (root : Value) (path : String) : Bool :=
  (get root path).isSome

def nest (new : Value) : List String → Value
  | [] => new
  | segment :: rest => .object [(segment, nest new rest)]

abbrev Written := Value × Option Value

-- The write behind one segment of a value. `below` continues from a cursor and has no answer where
-- an object has no key to go through.
def writeFrom (new : Value) (path segment : String) (rest : List String)
    (below : Cursor → Option (Except PathError Written)) : Value → Except PathError Written
  | .object fields =>
    match below (.inside fields segment) with
    | some written => written
    | none =>
      if rest ≠ [] ∧ Keyed.contains segment fields then .error (.notContainer path segment)
      else .ok (.object (Keyed.insert segment (nest new rest) fields), none)
  | .array items =>
    match Numeral.index? segment with
    | none => .error (.notContainer path segment)
    | some i =>
      match items[i]? with
      | some child =>
        match below (.here child) with
        | some (.ok (child, old)) => .ok (.array (items.set i child), old)
        | some (.error e) => .error e
        | none => .error (.notContainer path segment)
      | none =>
        if rest = [] ∧ i = items.length then .ok (.array (items ++ [new]), none)
        else .error (.outOfBounds path segment)
  | _ => .error (.notContainer path segment)

-- A write goes to the whole key where the object has it, else through the longest key that holds a
-- container.
def write (new : Value) (path : String) : List String → Cursor → Option (Except PathError Written)
  | [], .here old => some (.ok (new, some old))
  | [], .inside fields key =>
    (Keyed.get? key fields).map fun old => .ok (.object (Keyed.insert key new fields), some old)
  | segment :: rest, .here v => some (writeFrom new path segment rest (write new path rest) v)
  | segment :: rest, .inside fields key =>
    match write new path rest (.inside fields (extend key segment)) with
    | some written => some written
    | none =>
      match Keyed.get? key fields with
      | some child =>
        if child.isContainer then
          some <| (writeFrom new path segment rest (write new path rest) child).map
            fun (child, old) => (.object (Keyed.insert key child fields), old)
        else none
      | none => none

def set (root : Value) (path : String) (new : Value) : Except PathError Written := do
  match ← segments path with
  | [] => .error (.invalid path)
  | segment :: rest => writeFrom new path segment rest (write new path rest) root

def setIn (fields : Record) (path : String) (new : Value) :
    Except PathError (Record × Option Value) :=
  match set (.object fields) path new with
  | .ok (.object fields, old) => .ok (fields, old)
  | .ok (_, old) => .ok (fields, old)
  | .error e => .error e

def removeFrom (segment : String) (rest : List String)
    (below : Cursor → Option (Value × Value)) : Value → Option (Value × Value)
  | .object fields => below (.inside fields segment)
  | .array items => do
    let i ← Numeral.index? segment
    let child ← items[i]?
    if rest = [] then return (.array (items.eraseIdx i), child)
    let (child, old) ← below (.here child)
    return (.array (items.set i child), old)
  | _ => none

def erase : List String → Cursor → Option (Value × Value)
  | [], .here _ => none
  | [], .inside fields key =>
    (Keyed.get? key fields).map fun old => (.object (Keyed.erase key fields), old)
  | segment :: rest, .here v => removeFrom segment rest (erase rest) v
  | segment :: rest, .inside fields key =>
    match erase rest (.inside fields (extend key segment)) with
    | some erased => some erased
    | none => do
      let child ← Keyed.get? key fields
      let (child, old) ← removeFrom segment rest (erase rest) child
      return (.object (Keyed.insert key child fields), old)

def remove? (root : Value) (path : String) : Option (Value × Value) :=
  (segments? path).bind fun parts => erase parts (.here root)

def remove (root : Value) (path : String) : Value × Option Value :=
  match remove? root path with
  | some (root, old) => (root, some old)
  | none => (root, none)

def removeIn (fields : Record) (path : String) : Record × Option Value :=
  match remove (.object fields) path with
  | (.object fields, old) => (fields, old)
  | (_, old) => (fields, old)

end Path

end RecordSync
