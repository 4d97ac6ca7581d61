import RecordSync.Document.Path

set_option autoImplicit false

namespace RecordSync.Path

abbrev Edited (α : Type) := Except PathError (Option Value) × α

-- The longest key that leaves segments over and holds a container, with that container and the
-- segments left over.
def through? (fields : Record) (key : String) :
    List String → Option (String × Value × List String)
  | [] => none
  | segment :: rest =>
    match through? fields (extend key segment) rest with
    | some found => some found
    | none =>
      match Keyed.get? key fields with
      | some child => if child.isContainer then some (key, child, segment :: rest) else none
      | none => none

theorem length_of_through? {fields : Record} {key found : String} {rest left : List String}
    {child : Value} (run : through? fields key rest = some (found, child, left)) :
    left.length ≤ rest.length := by
  induction rest generalizing key with
  | nil => cases run
  | cons segment rest ih =>
    rw [through?] at run
    split at run
    · rename_i longer
      cases run
      exact Nat.le_succ_of_le (ih longer)
    · grind

mutual

def editFields (new : Value) (path : String) : List String → Record → Edited Record
  | [], fields => (.error (.invalid path), fields)
  | segment :: rest, fields =>
    let whole := rest.foldl extend segment
    match Keyed.get? whole fields with
    | some old => (.ok (some old), Keyed.insert whole new fields)
    | none =>
      match _ : through? fields segment rest with
      | some (key, child, left) =>
        let (answer, child) := editValue new path left child
        (answer, Keyed.insert key child fields)
      | none =>
        if rest = [] then (.ok none, Keyed.insert segment new fields)
        else
          let (child, fields) := match Keyed.get? segment fields with
            | some child => (child, fields)
            | none => (.object [], Keyed.insert segment (.object []) fields)
          if child.isContainer then
            let (answer, child) := editValue new path rest child
            (answer, Keyed.insert segment child fields)
          else (.error (.notContainer path segment), fields)
  termination_by segments => (segments.length, 0)
  decreasing_by
  · have := length_of_through? ‹_›
    simp only [List.length_cons]
    exact Prod.Lex.left _ _ (by omega)
  · exact Prod.Lex.left _ _ (by simp)

def editValue (new : Value) (path : String) : List String → Value → Edited Value
  | [], node => (.error (.invalid path), node)
  | segment :: rest, .object fields =>
    let (answer, fields) := editFields new path (segment :: rest) fields
    (answer, .object fields)
  | segment :: rest, .array items =>
    match Numeral.index? segment with
    | none => (.error (.notContainer path segment), .array items)
    | some i =>
      match items[i]? with
      | some child =>
        if rest = [] then (.ok (some child), .array (items.set i new))
        else
          let (answer, child) := editValue new path rest child
          (answer, .array (items.set i child))
      | none =>
        if rest = [] ∧ i = items.length then (.ok none, .array (items ++ [new]))
        else (.error (.outOfBounds path segment), .array items)
  | segment :: _, node => (.error (.notContainer path segment), node)
  termination_by segments => (segments.length, 1)

end

def edit (root : Value) (path : String) (new : Value) : Edited Value :=
  match segments path with
  | .ok parts => editValue new path parts root
  | .error e => (.error e, root)

def editIn (fields : Record) (path : String) (new : Value) : Edited Record :=
  match segments path with
  | .ok parts => editFields new path parts fields
  | .error e => (.error e, fields)

abbrev Pulled (α : Type) := Option Value × α

mutual

-- The keys that start with `key` are tried from the longest on, each in what the search through the
-- longer ones left.
def pullInside (key : String) : List String → Record → Pulled Record
  | [], fields =>
    match Keyed.get? key fields with
    | some old => (some old, Keyed.erase key fields)
    | none => (none, fields)
  | segment :: rest, fields =>
    match pullInside (extend key segment) rest fields with
    | (some old, fields) => (some old, fields)
    | (none, fields) =>
      match Keyed.get? key fields with
      | some child =>
        let (old, child) := pullValue (segment :: rest) child
        (old, Keyed.insert key child fields)
      | none => (none, fields)
  termination_by segments => (segments.length, 1)

def pullValue : List String → Value → Pulled Value
  | [], node => (none, node)
  | segment :: rest, .object fields =>
    let (old, fields) := pullInside segment rest fields
    (old, .object fields)
  | segment :: rest, .array items =>
    match Numeral.index? segment with
    | none => (none, .array items)
    | some i =>
      match items[i]? with
      | none => (none, .array items)
      | some child =>
        if rest = [] then (some child, .array (items.eraseIdx i))
        else
          let (old, child) := pullValue rest child
          (old, .array (items.set i child))
  | _ :: _, node => (none, node)
  termination_by segments => (segments.length, 0)

end

def pull (root : Value) (path : String) : Pulled Value :=
  match segments? path with
  | some parts => pullValue parts root
  | none => (none, root)

end RecordSync.Path
