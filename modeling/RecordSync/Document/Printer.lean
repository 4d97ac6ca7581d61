import RecordSync.Document.Value
import RecordSync.Number.Layout

set_option autoImplicit false

namespace RecordSync

namespace Text

def hexDigit (n : Nat) : Char :=
  if n < 10 then Char.ofNat ('0'.toNat + n) else Char.ofNat ('a'.toNat + n - 10)

def escapeChar (c : Char) : List Char :=
  match c with
  | '"' => ['\\', '"']
  | '\\' => ['\\', '\\']
  | '\n' => ['\\', 'n']
  | '\r' => ['\\', 'r']
  | '\t' => ['\\', 't']
  | c =>
    if c.toNat = 0x08 then ['\\', 'b']
    else if c.toNat = 0x0C then ['\\', 'f']
    else if c.toNat < 0x20 then
      ['\\', 'u', '0', '0', hexDigit (c.toNat / 16), hexDigit (c.toNat % 16)]
    else [c]

def quote (s : String) : String :=
  "\"" ++ String.ofList (s.toList.flatMap escapeChar) ++ "\""

end Text

namespace Number

def render : Number → String
  | .int n _ => toString n
  | .float f _ => Layout.document.render f

end Number

namespace Value

mutual

def render : Value → String
  | .null => "null"
  | .bool true => "true"
  | .bool false => "false"
  | .number n => n.render
  | .string s => Text.quote s
  | .array items => "[" ++ renderItems items ++ "]"
  | .object fields => "\x7b" ++ renderFields fields ++ "\x7d"

def renderItems : List Value → String
  | [] => ""
  | [x] => x.render
  | x :: xs => x.render ++ "," ++ renderItems xs

def renderFields : List (String × Value) → String
  | [] => ""
  | [(k, x)] => Text.quote k ++ ":" ++ x.render
  | (k, x) :: xs => Text.quote k ++ ":" ++ x.render ++ "," ++ renderFields xs

end

def lineAt (level : Nat) : String :=
  "\n" ++ String.ofList (List.replicate (2 * level) ' ')

mutual

def spread (level : Nat) : Value → String
  | .array [] => "[]"
  | .array items => "[" ++ spreadItems (level + 1) items ++ lineAt level ++ "]"
  | .object [] => "\x7b\x7d"
  | .object fields => "\x7b" ++ spreadFields (level + 1) fields ++ lineAt level ++ "\x7d"
  | .null => "null"
  | .bool true => "true"
  | .bool false => "false"
  | .number n => n.render
  | .string s => Text.quote s

def spreadItems (level : Nat) : List Value → String
  | [] => ""
  | [x] => lineAt level ++ x.spread level
  | x :: xs => lineAt level ++ x.spread level ++ "," ++ spreadItems level xs

def spreadFields (level : Nat) : List (String × Value) → String
  | [] => ""
  | [(k, x)] => lineAt level ++ Text.quote k ++ ": " ++ x.spread level
  | (k, x) :: xs =>
    lineAt level ++ Text.quote k ++ ": " ++ x.spread level ++ "," ++ spreadFields level xs

end

def scalarText : Value → String
  | .string s => s
  | other => other.render

end Value

end RecordSync
