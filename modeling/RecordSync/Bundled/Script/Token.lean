import RecordSync.Document.Reader
import RecordSync.Limits
import RecordSync.Text.Blank

set_option autoImplicit false

namespace RecordSync.Script

inductive Token where
  | int (n : Int)
  | float (f : Float)
  | char (c : Char)
  | text (s : String)
  | name (s : String)
  | word (s : String)
  | symbol (s : String)
  deriving DecidableEq

namespace Token

def words : List String :=
  ["true", "false", "let", "const", "if", "else", "while", "loop", "for", "in", "break", "continue",
    "return", "throw"]

def typeWord : String := "type_of"

def reserved : List String :=
  ["switch", "do", "until", "try", "catch", "fn", "private", "import", "export", "as", "this", "is",
    "Fn", "call", "curry", "print", "debug", typeWord, "eval", "is_def_var", "is_def_fn",
    "is_shared", "var", "static", "shared", "sync", "async", "await", "yield", "new", "use", "with",
    "module", "package", "super", "spawn", "thread", "go", "match", "case", "public", "protected",
    "default", "void", "null", "nil", "goto", "exit"]

def symbols : List String :=
  ["<<=", ">>=", "**=", "..=", "??", "?.", "?[", "==", "!=", "<=", ">=", "&&", "||", "<<", ">>",
    "**", "..", "+=", "-=", "*=", "/=", "%=", "&=", "|=", "^=", "#\x7b", "+", "-", "*", "/", "%",
    "<", ">", "!", "&", "|", "^", "=", "(", ")", "[", "]", "\x7b", "\x7d", ",", ";", ":", "."]

def refusedSymbols : List String :=
  ["===", "!==", "=>", "++", "--", "->", "<-", ":=", "::", "...", "(*", "*)", "<|", "|>", "!."]

def precedesOperand : Token → Bool
  | .symbol s => !(["\x7d", ")", "]", ".", "?.", "#\x7b"].contains s)
  | .word w => ["if", "while", "in", "return", "throw"].contains w
  | _ => false

def isNameStart (c : Char) : Bool :=
  ('a' ≤ c && c ≤ 'z') || ('A' ≤ c && c ≤ 'Z') || c = '_'

def isNamePart (c : Char) : Bool := isNameStart c || Numeral.isDigit c

def ofName? (cs : List Char) : Option Token :=
  let s := String.ofList cs
  match cs.dropWhile fun c => c = '_' with
  | [] => none
  | c :: _ =>
    if words.contains s || s = typeWord then some (.word s)
    else if Numeral.isDigit c || reserved.contains s then none
    else some (.name s)

def isNumberPart (c : Char) : Bool := Numeral.isDigit c || c = '_'

def digitsOf (cs : List Char) : List Char := cs.filter Numeral.isDigit

def fraction : List Char → Option (List Char × List Char)
  | '.' :: c :: rest =>
    if Numeral.isDigit c then
      some ((c :: rest).takeWhile isNumberPart, (c :: rest).dropWhile isNumberPart)
    else if c = '.' || isNameStart c then none
    else some ([], c :: rest)
  | _ => none

def exponent : List Char → Option (List Char × List Char)
  | 'e' :: c :: rest =>
    if Numeral.isDigit c then
      some ((c :: rest).takeWhile isNumberPart, (c :: rest).dropWhile isNumberPart)
    else if c = '+' || c = '-' then
      some (c :: rest.takeWhile isNumberPart, rest.dropWhile isNumberPart)
    else none
  | _ => none

def base? : Char → Option Nat
  | 'x' | 'X' => some 16
  | 'o' | 'O' => some 8
  | 'b' | 'B' => some 2
  | _ => none

def isDigitOf (base : Nat) (c : Char) : Bool :=
  (Document.hexValue? c).any fun d => d < base

def basedNumber? (base : Nat) (cs : List Char) : Option (Token × List Char) := do
  let part (c : Char) := isDigitOf base c || c = '_'
  let digits := (cs.takeWhile part).filter (isDigitOf base)
  let rest := cs.dropWhile part
  let n := digits.foldl (fun acc c => acc * base + (Document.hexValue? c).getD 0) 0
  if digits.isEmpty || Numeral.wordBound < n || (fraction rest).isSome || (exponent rest).isSome then
    none
  else return (.int (if n < 0x8000000000000000 then n else (n : Int) - 0x10000000000000000), rest)

def decimalNumber? (negative : Bool) (cs : List Char) : Option (Token × List Char) :=
  let digits := digitsOf (cs.takeWhile isNumberPart)
  let whole := if negative then '-' :: digits else digits
  let rest := cs.dropWhile isNumberPart
  let (part, rest) := match fraction rest with
    | some (ds, rest) => (some (digitsOf ds), rest)
    | none => (none, rest)
  let (power, rest) := match exponent rest with
    | some (ds, rest) => (some (ds.filter fun c => c ≠ '_'), rest)
    | none => (none, rest)
  let float? : Option Float := Numeral.float? <|
    whole ++ (part.map ('.' :: ·)).getD [] ++ (power.map ('e' :: ·)).getD []
  let token : Option Token := match part, power, Numeral.int64? whole with
    | none, none, some n => some (.int n)
    | _, _, _ => float?.map Token.float
  token.map fun t => (t, rest)

def number? (negative : Bool) (cs : List Char) : Option (Token × List Char) :=
  match cs with
  | '0' :: rest =>
    match rest.dropWhile fun c => c = '_' with
    | c :: digits =>
      match base? c with
      | some base => if negative then none else basedNumber? base digits
      | none => decimalNumber? negative cs
    | [] => decimalNumber? negative cs
  | _ => decimalNumber? negative cs

def hexNumber? (cs : List Char) : Option Char := do
  let n ← cs.foldlM (fun acc c => (Document.hexValue? c).map fun d => acc * 16 + d) 0
  if n.isValidChar then return Char.ofNat n else none

def escape? (mark : Char) : List Char → Option (Char × Nat)
  | 't' :: _ => some ('\t', 1)
  | 'n' :: _ => some ('\n', 1)
  | 'r' :: _ => some ('\r', 1)
  | '\\' :: _ => some ('\\', 1)
  | 'x' :: rest => digits 2 rest
  | 'u' :: rest => digits 4 rest
  | 'U' :: rest => digits 8 rest
  | c :: _ => if c = mark then some (mark, 1) else none
  | [] => none
where
  digits (n : Nat) (rest : List Char) : Option (Char × Nat) :=
    if rest.length < n then none else (hexNumber? (rest.take n)).map fun c => (c, n + 1)

def afterBreak? : List Char → Option (List Char)
  | '\n' :: rest | '\r' :: '\n' :: rest => some rest
  | _ => none

-- The rest of a text up to its closing mark, which stands for itself where it is doubled. In a text
-- of more than one character a backslash at the end of a line takes the line break away, and the
-- blanks of the next line up to the column that the text starts in, `column`; `margin` columns of
-- them are left. The first natural number bounds the length.
def quoted? (mark : Char) (column : Thunk Nat) :
    Nat → Nat → List Char → Option (List Char × List Char)
  | 0, _, _ | _, _, [] => none
  | fuel + 1, margin, c :: rest =>
    if c = mark then
      if rest.head? = some mark then
        (quoted? mark column fuel 0 (rest.drop 1)).map fun (s, r) => (mark :: s, r)
      else some ([], rest)
    else if c = '\\' then
      match if mark = '"' then afterBreak? rest else none with
      | some next => quoted? mark column fuel column.get next
      | none =>
        match escape? mark rest with
        | some (d, width) =>
          (quoted? mark column fuel (margin - 1 - width) (rest.drop width)).map
            fun (s, r) => (d :: s, r)
        | none => none
    else if (afterBreak? (c :: rest)).isSome then none
    else if 0 < margin && Text.isBlank c then quoted? mark column fuel (margin - 1) rest
    else (quoted? mark column fuel 0 rest).map fun (s, r) => (c :: s, r)

def afterComment : Nat → List Char → List Char
  | 0, cs => cs
  | _, [] => []
  | level + 1, '*' :: '/' :: rest => afterComment level rest
  | level + 1, '/' :: '*' :: rest => afterComment (level + 2) rest
  | level + 1, _ :: rest => afterComment (level + 1) rest

def symbol? (cs : List Char) : Option (Token × List Char) :=
  if refusedSymbols.any fun s => s.toList.isPrefixOf cs then none
  else
    match cs with
    | '!' :: 'i' :: 'n' :: rest =>
      if rest.head?.any isNamePart then some (.symbol "!", 'i' :: 'n' :: rest)
      else some (.symbol "!in", rest)
    | _ =>
      (symbols.find? fun s => s.toList.isPrefixOf cs).map fun s => (.symbol s, cs.drop s.length)

def quotedText? (limits : Limits) (mark : Char) (column : Thunk Nat) (rest : List Char) :
    Option (String × List Char) :=
  match quoted? mark column (rest.length + 1) 0 rest with
  | some (s, rest) =>
    let s := String.ofList s
    if limits.maxStringSize ≠ 0 && limits.maxStringSize < s.utf8ByteSize then none
    else some (s, rest)
  | none => none

def one? (limits : Limits) (column : Thunk Nat) (operandDue : Bool) (c : Char) (rest : List Char) :
    Option (Token × List Char) :=
  if Numeral.isDigit c then number? false (c :: rest)
  else if c = '-' && operandDue && rest.head?.any Numeral.isDigit then number? true rest
  else if isNameStart c then
    (ofName? ((c :: rest).takeWhile isNamePart)).map fun t =>
      (t, (c :: rest).dropWhile isNamePart)
  else if c = '"' then
    (quotedText? limits '"' column rest).map fun (s, rest) => (.text s, rest)
  else if c = '\'' then
    if rest.head? = some '\'' then none
    else
      match quotedText? limits '\'' column rest with
      | some (s, rest) =>
        match s.toList with
        | [c] => some (.char c, rest)
        | _ => none
      | none => none
  else symbol? (c :: rest)

def columnOf (code rest : List Char) : Nat :=
  ((code.take (code.length - rest.length)).reverse.takeWhile fun c => c ≠ '\n').length

def scanWithin (limits : Limits) (code : List Char) : Nat → Bool → List Char → Option (List Token)
  | 0, _, _ => none
  | _, _, [] => some []
  | fuel + 1, operandDue, '/' :: '/' :: rest =>
    scanWithin limits code fuel operandDue (rest.dropWhile fun c => c ≠ '\n')
  | fuel + 1, operandDue, '/' :: '*' :: rest =>
    scanWithin limits code fuel operandDue (afterComment 1 rest)
  | fuel + 1, operandDue, c :: rest =>
    if Text.isBlank c then scanWithin limits code fuel operandDue rest
    else do
      let (token, rest) ← one? limits (Thunk.mk fun _ => columnOf code rest) operandDue c rest
      return token :: (← scanWithin limits code fuel token.precedesOperand rest)

def scan (limits : Limits) (code : String) : Option (List Token) :=
  scanWithin limits code.toList (code.length + 1) true code.toList

end Token

end RecordSync.Script
