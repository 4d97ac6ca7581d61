import RecordSync.Attribute.Difference
import RecordSync.Command.Validate

set_option autoImplicit false

namespace RecordSync

def mapFile (lib : Libraries) (s : Surroundings) (file record : String) :
    Except CommandError Record := do
  let w ← s.workflow lib file
  let source ← s.record lib record
  let limits ← s.limits
  (w.mapper.map (s.evaluator limits) source).mapError .mapping

def diffFile (lib : Libraries) (s : Surroundings) (file record existing : String) :
    Except CommandError Changes := do
  let w ← s.workflow lib file
  let source ← s.record lib record
  let existing ← s.record lib existing
  let limits ← s.limits
  let mapped ← (w.mapper.map (s.evaluator limits) source).mapError .mapping
  return w.mapper.diff mapped existing

namespace Record

def lines (r : Record) : List String :=
  if r.isEmpty then ["(no attributes resolved)"]
  else r.map fun (name, v) => s!"{name} = {v.scalarText}"

end Record

namespace Changes

def label (a : Action) : String :=
  a.render ++ String.ofList (List.replicate (8 - a.render.length) ' ')

def line (name : String) (c : Change) : String :=
  match c with
  | .replace v => s!"{label c.action} {name} = {v.scalarText}"
  | .remove => s!"{label c.action} {name}"
  | .add items => s!"{label c.action} {name} += {Validation.list (items.map Value.scalarText)}"

def lines (changes : Changes) : List String :=
  if changes.isEmpty then ["No changes"]
  else changes.map fun (name, c) => line name c

end Changes

inductive Command where
  | validate (file : String)
  | map (file record : String)
  | diff (file record existing : String)
  deriving DecidableEq, Repr

inductive Style where
  | lines
  | json
  deriving DecidableEq, Repr

namespace Style

def print (style : Style) (lines : List String) (v : Value) : String :=
  match style with
  | .lines => String.join (lines.map fun line => line ++ "\n")
  | .json => v.spread 0 ++ "\n"

end Style

namespace Command

def paths : Command → List String
  | .validate file => [file]
  | .map file record => [file, record]
  | .diff file record existing => [file, record, existing]

def run (lib : Libraries) (s : Surroundings) (style : Style) : Command → Except CommandError String
  | .validate file => do
    let v ← RecordSync.validate lib s file
    return style.print v.lines v.toValue
  | .map file record => do
    let r ← mapFile lib s file record
    return style.print (Record.lines r) (.object r)
  | .diff file record existing => do
    let changes ← diffFile lib s file record existing
    return style.print (Changes.lines changes) changes.toValue

end Command

end RecordSync
