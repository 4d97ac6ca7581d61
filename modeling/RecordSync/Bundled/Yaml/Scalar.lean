import RecordSync.Bundled.Yaml.Node

set_option autoImplicit false

namespace RecordSync.Yaml

structure Cursor where
  rest : List Char
  column : Nat
  fresh : Bool

def isSpaceOrTab (c : Char) : Bool :=
  c = ' ' || c = '\t'

def isBreak (c : Char) : Bool :=
  c = '\n' || c.toNat = 0x2028 || c.toNat = 0x2029

def atBoundary : List Char → Bool
  | [] => true
  | c :: _ => isSpaceOrTab c || isBreak c

def isFlowMark (c : Char) : Bool :=
  c = ',' || c = '[' || c = ']' || c = '\x7b' || c = '\x7d'

namespace Cursor

def skipFrom (flow comment : Bool) (column : Nat) (fresh : Bool) : List Char → Cursor
  | [] => ⟨[], column, fresh⟩
  | c :: cs =>
    if isBreak c then skipFrom flow false 0 (fresh || !flow) cs
    else if comment || c = ' ' then skipFrom flow comment (column + 1) fresh cs
    else if c = '#' then skipFrom flow true (column + 1) fresh cs
    else if c = '\t' && (flow || !fresh) then skipFrom flow comment (column + 1) fresh cs
    else ⟨c :: cs, column, fresh⟩

def skip (flow : Bool) (cur : Cursor) : Cursor :=
  skipFrom flow false cur.column cur.fresh cur.rest

def atMarker (marks : List Char) (cur : Cursor) : Bool :=
  cur.column = 0 && marks.isPrefixOf cur.rest && atBoundary (cur.rest.drop marks.length)

def startMarks : List Char := ['-', '-', '-']

def endMarks : List Char := ['.', '.', '.']

def ended (cur : Cursor) : Bool :=
  cur.rest.isEmpty || cur.atMarker startMarks || cur.atMarker endMarks

def colon? (flow : Bool) (cur : Cursor) : Option Cursor :=
  match cur.rest.dropWhile isSpaceOrTab with
  | ':' :: rest =>
    if flow || atBoundary rest then
      some ⟨rest, cur.column + (cur.rest.length - rest.length), false⟩
    else none
  | _ => none

end Cursor

structure Gap where
  blanks : List Char
  breaks : List Char
  after : Cursor

namespace Gap

def crosses (gap : Gap) : Bool := !gap.breaks.isEmpty

def readFrom (least column : Nat) (blanks breaks : List Char) : List Char → Option Gap
  | [] => some ⟨blanks, breaks, ⟨[], column, !breaks.isEmpty⟩⟩
  | c :: cs =>
    if isBreak c then readFrom least 0 [] (breaks ++ [c]) cs
    else if isSpaceOrTab c then
      if !breaks.isEmpty && column < least && c = '\t' then none
      else readFrom least (column + 1) (if breaks.isEmpty then blanks ++ [c] else blanks) breaks cs
    else some ⟨blanks, breaks, ⟨c :: cs, column, !breaks.isEmpty⟩⟩

def read? (least : Nat) (cur : Cursor) : Option Gap :=
  readFrom least cur.column [] [] cur.rest

def text (gap : Gap) : List Char :=
  match gap.breaks with
  | [] => gap.blanks
  | ['\n'] => [' ']
  | '\n' :: more => more
  | breaks => breaks

end Gap

structure Scalar where
  text : List Char
  plain : Bool
  crossed : Bool
  after : Cursor

def Scalar.name (s : Scalar) : String := String.ofList s.text

def Scalar.node (s : Scalar) : Yaml :=
  if s.plain then .plain s.name else .quoted s.name

namespace Scalar

def reserved : List Char :=
  ['#', '&', '*', '!', '|', '>', '\'', '"', '%', '@', Char.ofNat 0x60]

def startsPlain (flow : Bool) : List Char → Bool
  | [] => false
  | '-' :: cs => !atBoundary cs
  | '?' :: cs | ':' :: cs => !flow && !atBoundary cs
  | c :: _ => !isSpaceOrTab c && !isBreak c && !isFlowMark c && !reserved.contains c

def word? (flow : Bool) : List Char → Option (List Char × List Char)
  | [] => some ([], [])
  | c :: cs =>
    if isSpaceOrTab c || isBreak c || flow && isFlowMark c then some ([], c :: cs)
    else if c = ':' then
      match cs with
      | [] => some ([], [c])
      | d :: _ =>
        if flow && (isFlowMark d || d = '?') then none
        else if atBoundary cs then some ([], c :: cs)
        else (word? flow cs).map fun (word, rest) => (c :: word, rest)
    else (word? flow cs).map fun (word, rest) => (c :: word, rest)

def readPlain (flow : Bool) (least : Nat) :
    Nat → List Char → List Char → Bool → Cursor → Option Scalar
  | 0, _, _, _, _ => none
  | count + 1, text, between, crossed, cur =>
    let done : Scalar := ⟨text, true, crossed, cur⟩
    if cur.ended || cur.rest.head? = some '#' || (!flow && crossed && cur.column < least) then
      some done
    else
      match word? flow cur.rest with
      | none => none
      | some ([], _) => some done
      | some (word, rest) =>
        match Gap.read? least ⟨rest, cur.column + word.length, false⟩ with
        | none => none
        | some gap =>
          readPlain flow least count (text ++ between ++ word) gap.text (crossed || gap.crosses)
            gap.after

def codePoint? (digits : Nat) (cs : List Char) : Option Char := do
  if cs.length < digits then none
  let n ← digitsIn? 16 (cs.take digits)
  if h : n.isValidChar then some (Char.ofNatAux n h) else none

def escape? : List Char → Option (Char × Nat)
  | [] => none
  | c :: cs =>
    match c with
    | '0' => some (Char.ofNat 0x00, 1)
    | 'a' => some (Char.ofNat 0x07, 1)
    | 'b' => some (Char.ofNat 0x08, 1)
    | 't' | '\t' => some ('\t', 1)
    | 'n' => some ('\n', 1)
    | 'v' => some (Char.ofNat 0x0B, 1)
    | 'f' => some (Char.ofNat 0x0C, 1)
    | 'r' => some ('\r', 1)
    | 'e' => some (Char.ofNat 0x1B, 1)
    | ' ' | '"' | '/' | '\\' => some (c, 1)
    | 'N' => some (Char.ofNat 0x85, 1)
    | '_' => some (Char.ofNat 0xA0, 1)
    | 'L' => some (Char.ofNat 0x2028, 1)
    | 'P' => some (Char.ofNat 0x2029, 1)
    | 'x' => (codePoint? 2 cs).map fun d => (d, 3)
    | 'u' => (codePoint? 4 cs).map fun d => (d, 5)
    | 'U' => (codePoint? 8 cs).map fun d => (d, 9)
    | _ => none

def readQuoted (quote : Char) : Nat → List Char → Bool → Cursor → Option Scalar
  | 0, _, _, _ => none
  | fuel + 1, text, crossed, cur =>
    if cur.ended then none
    else
      match cur.rest with
      | [] => none
      | c :: cs =>
        if c = quote then
          if quote = '\'' && cs.head? = some '\'' then
            readQuoted quote fuel (text ++ [c]) crossed ⟨cs.drop 1, cur.column + 2, false⟩
          else some ⟨text, false, crossed, ⟨cs, cur.column + 1, false⟩⟩
        else if isSpaceOrTab c || isBreak c then
          match Gap.read? 0 cur with
          | none => none
          | some gap => readQuoted quote fuel (text ++ gap.text) (crossed || gap.crosses) gap.after
        else if c = '\\' && quote = '"' then
          match cs with
          | [] => none
          | d :: rest =>
            if isBreak d then
              match Gap.readFrom 0 0 [] [d] rest with
              | none => none
              | some gap => readQuoted quote fuel (text ++ gap.breaks.drop 1) true gap.after
            else
              match escape? cs with
              | none => none
              | some (d, length) =>
                readQuoted quote fuel (text ++ [d]) crossed
                  ⟨cs.drop length, cur.column + 1 + length, false⟩
        else readQuoted quote fuel (text ++ [c]) crossed ⟨cs, cur.column + 1, false⟩

def read? (flow : Bool) (least : Nat) (cur : Cursor) : Option Scalar :=
  match cur.rest with
  | '\'' :: rest => readQuoted '\'' (rest.length + 1) [] false ⟨rest, cur.column + 1, false⟩
  | '"' :: rest => readQuoted '"' (rest.length + 1) [] false ⟨rest, cur.column + 1, false⟩
  | rest =>
    if startsPlain flow rest then readPlain flow least (rest.length + 1) [] [] false cur else none

end Scalar

end RecordSync.Yaml
