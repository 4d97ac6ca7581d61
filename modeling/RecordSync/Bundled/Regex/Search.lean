import RecordSync.Bundled.Regex.Program
import RecordSync.Bundled.Regex.Reader
import RecordSync.Bundled.Regex.Size
import RecordSync.Pattern

set_option autoImplicit false

namespace RecordSync

structure Regex where
  program : Regex.Program
  slots : Nat
  names : List (String × Nat)

namespace Regex

def read (text : String) : Except String Regex :=
  match readNode text with
  | none => .error "regex parse error"
  | some (node, src) =>
    if node.fits then
      let program := ((Node.group 0 node).addTo #[]).push .done
      .ok ⟨program, 2 * (src.groups + 1), src.names⟩
    else .error "Compiled regex exceeds size limit of 10485760 bytes."

def find (p : Regex) (text : Array Char) (pos : Nat) : Option Slots :=
  searchFrom p.program p.slots text pos

def accepts (p : Regex) (text : String) : Bool :=
  (p.find text.toList.toArray 0).isSome

def between (text : Array Char) (first last : Nat) : List Char :=
  (text.extract first last).toList

def groupText (text : Array Char) (slots : Slots) (index : Nat) : List Char :=
  match (slots[2 * index]?).join, (slots[2 * index + 1]?).join with
  | some first, some last => between text first last
  | _, _ => []

def namedText (p : Regex) (text : Array Char) (slots : Slots) (name : List Char) : List Char :=
  match Numeral.index? (String.ofList name) with
  | some index => groupText text slots index
  | none =>
    match p.names.lookup (String.ofList name) with
    | some index => groupText text slots index
    | none => []

def isNameLetter (c : Char) : Bool := c.isAlphanum || c = '_'

-- A replacement with its references to groups filled in. The first argument bounds its length.
def fill (lookup : List Char → List Char) : Nat → List Char → List Char
  | 0, _ => []
  | _, [] => []
  | fuel + 1, '$' :: rest =>
    match rest with
    | '$' :: rest => '$' :: fill lookup fuel rest
    | '{' :: inner =>
      match inner.dropWhile (· != '}') with
      | '}' :: tail => lookup (inner.takeWhile (· != '}')) ++ fill lookup fuel tail
      | _ => '$' :: fill lookup fuel rest
    | _ =>
      let name := rest.takeWhile isNameLetter
      if name.isEmpty then '$' :: fill lookup fuel rest
      else lookup name ++ fill lookup fuel (rest.drop name.length)
  | fuel + 1, c :: rest => c :: fill lookup fuel rest

-- The text from `copied` on with its matches replaced. Searching goes on at `pos`; an empty match
-- at `last`, the end of the match before, does not count.
def replaceFrom (p : Regex) (text : Array Char) (replacement : List Char) :
    Nat → Nat → Nat → Option Nat → List Char
  | 0, copied, _, _ => between text copied text.size
  | fuel + 1, copied, pos, last =>
    match p.find text pos with
    | none => between text copied text.size
    | some slots =>
      match (slots[0]?).join, (slots[1]?).join with
      | some first, some stop =>
        if first = stop && last = some stop then
          replaceFrom p text replacement fuel copied (stop + 1) none
        else
          between text copied first ++
            fill (p.namedText text slots) (replacement.length + 1) replacement ++
            replaceFrom p text replacement fuel stop stop (some stop)
      | _, _ => between text copied text.size

def replaceAll (p : Regex) (replacement text : String) : String :=
  let cs := text.toList.toArray
  String.ofList (p.replaceFrom cs replacement.toList (2 * cs.size + 2) 0 0 none)

def compile : Pattern.Compiler := fun text => do
  let p ← read text
  return ⟨text, p.accepts, p.replaceAll⟩

end Regex

end RecordSync
