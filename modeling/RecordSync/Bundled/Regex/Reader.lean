import RecordSync.Number.Numeral
import RecordSync.Bundled.Regex.Node
import RecordSync.Text.HiddenTable

set_option autoImplicit false

namespace RecordSync.Regex

structure Flags where
  anyCase : Bool
  multiLine : Bool
  dotAll : Bool
  swapGreed : Bool
  spaced : Bool
  lineFeedPairs : Bool
  deriving DecidableEq, Repr

namespace Flags

def off : Flags := ⟨false, false, false, false, false, false⟩

def set (on : Bool) (c : Char) (f : Flags) : Option Flags :=
  match c with
  | 'i' => some { f with anyCase := on }
  | 'm' => some { f with multiLine := on }
  | 's' => some { f with dotAll := on }
  | 'U' => some { f with swapGreed := on }
  | 'x' => some { f with spaced := on }
  | 'R' => some { f with lineFeedPairs := on }
  | 'u' => some f
  | _ => none

def literal (f : Flags) (set : CharSet) : CharSet :=
  if f.anyCase then .anyCase set else set

def point (f : Flags) : CharSet :=
  if f.dotAll then .every
  else if f.lineFeedPairs then
    .complement (.union (CharSet.single '\n') (CharSet.single '\r'))
  else .complement (CharSet.single '\n')

def lineStart (f : Flags) : Anchor := if f.multiLine then .lineStart f.lineFeedPairs else .textStart

def lineEnd (f : Flags) : Anchor := if f.multiLine then .lineEnd f.lineFeedPairs else .textEnd

def skip (f : Flags) (cs : List Char) : List Char :=
  if f.spaced then skipSpaced (cs.length + 1) cs else cs
where
  skipSpaced : Nat → List Char → List Char
    | 0, cs => cs
    | fuel + 1, cs =>
      match cs.dropWhile Text.isBlank with
      | '#' :: rest => skipSpaced fuel (rest.dropWhile (· != '\n'))
      | rest => rest

end Flags

structure Source where
  rest : List Char
  groups : Nat
  names : List (String × Nat)

namespace Source

def step (s : Source) (rest : List Char) : Source := { s with rest := rest }

end Source

inductive Escape where
  | char (c : Char)
  | set (s : CharSet)
  | anchor (a : Anchor)

def isMeta (c : Char) : Bool :=
  "\\.+*?()|[]\x7b\x7d^$#&-~".toList.contains c

def hexRun (cs : List Char) : Option Char := do
  if cs.isEmpty then none
  let n ← cs.foldlM (fun acc c => do
    let d ← if '0' ≤ c ∧ c ≤ '9' then some (c.toNat - '0'.toNat)
      else if 'a' ≤ c ∧ c ≤ 'f' then some (c.toNat - 'a'.toNat + 10)
      else if 'A' ≤ c ∧ c ≤ 'F' then some (c.toNat - 'A'.toNat + 10)
      else none
    if acc < 0x1000000 then some (acc * 16 + d) else none) 0
  if n < 0xD800 ∨ (0xE000 ≤ n ∧ n < 0x110000) then some (Char.ofNat n) else none

def readHex (width : Nat) (cs : List Char) : Option (Escape × List Char) :=
  match cs with
  | '{' :: rest =>
    match rest.dropWhile (· != '}') with
    | '}' :: tail => (hexRun (rest.takeWhile (· != '}'))).map fun c => (.char c, tail)
    | _ => none
  | _ =>
    if (cs.take width).length = width then
      (hexRun (cs.take width)).map fun c => (.char c, cs.drop width)
    else none

def boundaryNames : List (String × Anchor) :=
  [("start", .wordStart), ("end", .wordEnd), ("start-half", .wordStartHalf),
    ("end-half", .wordEndHalf)]

def readBoundary (flags : Flags) (cs : List Char) : Option (Escape × List Char) :=
  let isNamePart (c : Char) : Bool := c.isAlpha || c = '-'
  let plain : Option (Escape × List Char) := some (.anchor .wordBoundary, cs)
  match cs with
  | '{' :: rest =>
    let rest := flags.skip rest
    let name := rest.takeWhile isNamePart
    if name.isEmpty then if rest.isEmpty then none else plain
    else
      match flags.skip (rest.drop name.length) with
      | '}' :: tail => (boundaryNames.lookup (String.ofList name)).map fun a => (.anchor a, tail)
      | _ => none
  | _ => plain

def readEscape (flags : Flags) : List Char → Option (Escape × List Char)
  | [] => none
  | 'x' :: rest => readHex 2 rest
  | 'u' :: rest => readHex 4 rest
  | 'U' :: rest => readHex 8 rest
  | 'd' :: rest => some (.set .digit, rest)
  | 'D' :: rest => some (.set (.complement .digit), rest)
  | 'w' :: rest => some (.set .word, rest)
  | 'W' :: rest => some (.set (.complement .word), rest)
  | 's' :: rest => some (.set .blank, rest)
  | 'S' :: rest => some (.set (.complement .blank), rest)
  | 'a' :: rest => some (.char (Char.ofNat 0x07), rest)
  | 'f' :: rest => some (.char (Char.ofNat 0x0C), rest)
  | 't' :: rest => some (.char '\t', rest)
  | 'n' :: rest => some (.char '\n', rest)
  | 'r' :: rest => some (.char '\r', rest)
  | 'v' :: rest => some (.char (Char.ofNat 0x0B), rest)
  | 'A' :: rest => some (.anchor .textStart, rest)
  | 'z' :: rest => some (.anchor .textEnd, rest)
  | 'b' :: rest => readBoundary flags rest
  | 'B' :: rest => some (.anchor .notWordBoundary, rest)
  | '<' :: rest => some (.anchor .wordStart, rest)
  | '>' :: rest => some (.anchor .wordEnd, rest)
  | c :: rest =>
    if isMeta c || (c.toNat < 0x80 && !c.isAlphanum) then some (.char c, rest) else none

def asciiClasses : List (String × CharSet) :=
  let span (a b : Char) : CharSet := .span a.toNat b.toNat
  let lower := span 'a' 'z'
  let upper := span 'A' 'Z'
  let digits := span '0' '9'
  let alpha := CharSet.union lower upper
  let alnum := CharSet.union alpha digits
  [("alnum", alnum), ("alpha", alpha), ("ascii", .span 0 0x7F),
    ("blank", .union (CharSet.single '\t') (CharSet.single ' ')),
    ("cntrl", .union (.span 0 0x1F) (.span 0x7F 0x7F)), ("digit", digits),
    ("graph", .span 0x21 0x7E), ("lower", lower), ("print", .span 0x20 0x7E),
    ("punct", .diff (.span 0x21 0x7E) alnum),
    ("space", .union (.span 0x09 0x0D) (CharSet.single ' ')), ("upper", upper),
    ("word", .union alnum (CharSet.single '_')),
    ("xdigit", .union digits (.union (span 'a' 'f') (span 'A' 'F')))]

def readAsciiClass (flags : Flags) : List Char → Option (CharSet × List Char)
  | ':' :: rest =>
    let (negated, rest) := match rest with
      | '^' :: rest => (true, rest)
      | rest => (false, rest)
    let name := rest.takeWhile fun c => c != ':' && c != ']'
    match rest.drop name.length with
    | ':' :: ']' :: tail =>
      (asciiClasses.lookup (String.ofList name)).map fun set =>
        (if negated then .complement (flags.literal set) else flags.literal set, tail)
    | _ => none
  | _ => none

def readClassAtom (flags : Flags) (cs : List Char) : Option (Escape × List Char) :=
  match cs with
  | [] => none
  | '\\' :: rest => readEscape flags rest
  | c :: rest => some (.char c, rest)

def atomSet (flags : Flags) : Escape → Option CharSet
  | .char c => some (flags.literal (CharSet.single c))
  | .set s => some s
  | .anchor _ => none

def readRange (flags : Flags) (cs : List Char) : Option (CharSet × List Char) := do
  let (first, rest) ← readClassAtom flags cs
  match flags.skip rest with
  | '-' :: rest =>
    let next := flags.skip rest
    if next.head? = some ']' || next.head? = some '-' then
      return (← atomSet flags first, '-' :: rest)
    else
      let (last, tail) ← readClassAtom flags next
      match first, last with
      | .char low, .char high =>
        if low.toNat ≤ high.toNat then
          return (flags.literal (.span low.toNat high.toNat), tail)
        else none
      | _, _ => none
  | rest => return (← atomSet flags first, rest)

structure Items where
  set : CharSet
  count : Nat
  depth : Nat

namespace Items

def start : Items := ⟨.none, 0, 0⟩

def add (items : Items) (set : CharSet) (depth : Nat) : Items :=
  ⟨.union items.set set, items.count + 1, max items.depth depth⟩

def level (items : Items) : Nat := if 1 < items.count then items.depth + 1 else items.depth

end Items

def leadingDashes (flags : Flags) (items : Items) : List Char → Items × List Char
  | '-' :: rest => leadingDashes flags (items.add (CharSet.single '-') 0) rest
  | rest => (items, flags.skip rest)

inductive ClassOp where
  | inter
  | diff
  | symmetric

structure LeftOperand where
  set : CharSet
  depth : Nat
  op : ClassOp

namespace LeftOperand

def close (left : Option LeftOperand) (items : Items) : CharSet × Nat :=
  match left with
  | none => (items.set, items.level)
  | some l =>
    let set := match l.op with
      | .inter => CharSet.inter l.set items.set
      | .diff => .diff l.set items.set
      | .symmetric => .union (.diff l.set items.set) (.diff items.set l.set)
    (set, max l.depth items.level + 1)

def push (left : Option LeftOperand) (items : Items) (op : ClassOp) : Option LeftOperand :=
  let (set, depth) := close left items
  some ⟨set, depth, op⟩

end LeftOperand

mutual

-- The items of a class up to its closing bracket, and their depth. `left` is the operand before the
-- last operator. The first argument bounds the number of steps.
def readItems (flags : Flags) :
    Nat → Option LeftOperand → Items → List Char → Option ((CharSet × Nat) × List Char)
  | 0, _, _, _ => none
  | fuel + 1, left, items, cs =>
    match flags.skip cs with
    | [] => none
    | ']' :: rest => some (LeftOperand.close left items, rest)
    | '[' :: rest =>
      match readAsciiClass flags rest with
      | some (set, rest) => readItems flags fuel left (items.add set 0) rest
      | none => do
        let ((set, depth), rest) ← readClass flags fuel rest
        readItems flags fuel left (items.add set depth) rest
    | '&' :: '&' :: rest =>
      readItems flags fuel (LeftOperand.push left items .inter) Items.start rest
    | '-' :: '-' :: rest =>
      readItems flags fuel (LeftOperand.push left items .diff) Items.start rest
    | '~' :: '~' :: rest =>
      readItems flags fuel (LeftOperand.push left items .symmetric) Items.start rest
    | cs => do
      let (set, rest) ← readRange flags cs
      readItems flags fuel left (items.add set 0) rest

def readClass (flags : Flags) : Nat → List Char → Option ((CharSet × Nat) × List Char)
  | 0, _ => none
  | fuel + 1, cs => do
    let (negated, cs) := match flags.skip cs with
      | '^' :: rest => (true, flags.skip rest)
      | rest => (false, rest)
    let (items, cs) := leadingDashes flags Items.start cs
    let (items, cs) := match items.count, cs with
      | 0, ']' :: rest => (items.add (CharSet.single ']') 0, rest)
      | _, rest => (items, rest)
    let ((set, depth), rest) ← readItems flags fuel none items cs
    return ((if negated then .complement set else set, depth + 1), rest)

end

def skipBlanks (cs : List Char) : List Char :=
  cs.dropWhile Text.isBlank

def readDecimal (cs : List Char) : Option (Nat × List Char) :=
  let cs := skipBlanks cs
  let ds := cs.takeWhile Numeral.isDigit
  if ds.isEmpty || 4294967295 < Numeral.digitsValue ds then none
  else some (Numeral.digitsValue ds, skipBlanks (cs.drop ds.length))

def readBounds (flags : Flags) (cs : List Char) : Option ((Nat × Option Nat) × List Char) := do
  let (least, rest) ← readDecimal cs
  match rest with
  | '}' :: rest => return ((least, some least), rest)
  | ',' :: rest =>
    match flags.skip rest with
    | '}' :: rest => return ((least, none), rest)
    | rest =>
      let (most, rest) ← readDecimal rest
      match rest with
      | '}' :: rest => if least ≤ most then return ((least, some most), rest) else none
      | _ => none
  | _ => none

def readGreed (flags : Flags) : List Char → Bool × List Char
  | '?' :: rest => (flags.swapGreed, rest)
  | rest => (!flags.swapGreed, rest)

def readFlags : Bool → List Char → Flags → List Char → Option (Flags × Bool × List Char)
  | _, seen, flags, ')' :: rest =>
    if seen.head? = some '-' then none else some (flags, false, rest)
  | _, seen, flags, ':' :: rest =>
    if seen.head? = some '-' then none else some (flags, true, rest)
  | on, seen, flags, '-' :: rest => if on then readFlags false ('-' :: seen) flags rest else none
  | on, seen, flags, c :: rest =>
    if seen.contains c then none
    else (flags.set on c).bind fun flags => readFlags on (c :: seen) flags rest
  | _, _, _, [] => none

def isLetter (c : Char) : Bool :=
  if c.toNat < 0x80 then c.isAlpha
  else Text.isWord c && !Text.isDecimalDigit c && !Text.isHidden c

def isNameStart (c : Char) : Bool := c = '_' || isLetter c

def isNameChar (c : Char) : Bool :=
  isNameStart c || c = '.' || c = '[' || c = ']' || Text.isDecimalDigit c

def readName (cs : List Char) : Option (String × List Char) :=
  let name := cs.takeWhile isNameChar
  match name, cs.drop name.length with
  | first :: _, '>' :: rest => if isNameStart first then some (String.ofList name, rest) else none
  | _, _ => none

inductive Opening where
  | capture (name : Option String)
  | plain (flags : Flags)
  | switch (flags : Flags)

def readOpening (flags : Flags) : List Char → Option (Opening × List Char)
  | '?' :: 'P' :: '<' :: rest => (readName rest).map fun (n, rest) => (.capture (some n), rest)
  | '?' :: '<' :: rest => (readName rest).map fun (n, rest) => (.capture (some n), rest)
  | '?' :: ')' :: _ => none
  | '?' :: rest =>
    (readFlags true [] flags rest).map fun (flags, body, rest) =>
      (if body then .plain flags else .switch flags, rest)
  | rest => some (.capture none, rest)

structure Part where
  node : Node
  depth : Nat

namespace Part

def many (p : Part) (count : Count) : Part :=
  let count := if p.node.isWidthless then
      { count with least := min count.least 1, most := some (min (count.most.getD 1) 1) }
    else count
  ⟨.many p.node count, p.depth + 1⟩

end Part

structure Parts where
  parts : List Part
  repeatable : Bool

namespace Parts

def start : Parts := ⟨[], false⟩

def add (p : Parts) (part : Part) : Parts := ⟨part :: p.parts, true⟩

def addSwitch (p : Parts) : Parts := ⟨⟨.empty, 0⟩ :: p.parts, false⟩

def level (parts : List Part) : Nat :=
  let depth := (parts.map Part.depth).foldl max 0
  if 1 < parts.length then depth + 1 else depth

def close (p : Parts) : Part :=
  let node := p.parts.foldl (fun acc part => match acc with
    | .empty => part.node
    | acc => .sequence part.node acc) Node.empty
  ⟨node, level p.parts⟩

def repeatLast (p : Parts) (count : Count) : Option Parts :=
  match p.repeatable, p.parts with
  | true, last :: rest => some ⟨last.many count :: rest, true⟩
  | _, _ => none

def choose (alternatives : List Part) : Part :=
  match alternatives with
  | [] => ⟨.empty, 0⟩
  | last :: others =>
    ⟨others.foldl (fun acc part => .choice part.node acc) last.node, level alternatives⟩

end Parts

-- Reads alternatives up to the end of the text or to a closing bracket, which stays. `before` holds
-- the alternatives read so far, the last one first. The first argument bounds the number of steps.
def readBody : Nat → Flags → List Part → Parts → Source → Option (Part × Source)
  | 0, _, _, _, _ => none
  | fuel + 1, flags, before, parts, src =>
    let goOn (part : Part) (rest : List Char) :=
      readBody fuel flags before (parts.add part) (src.step rest)
    let goFlat (n : Node) (rest : List Char) := goOn ⟨n, 0⟩ rest
    let repeated (least : Nat) (most : Option Nat) (rest : List Char) := do
      let (greedy, rest) := readGreed flags rest
      let parts ← parts.repeatLast ⟨least, most, greedy⟩
      readBody fuel flags before parts (src.step rest)
    match flags.skip src.rest with
    | [] => some (Parts.choose (parts.close :: before), src.step [])
    | ')' :: rest => some (Parts.choose (parts.close :: before), src.step (')' :: rest))
    | '|' :: rest => readBody fuel flags (parts.close :: before) Parts.start (src.step rest)
    | '*' :: rest => repeated 0 none rest
    | '+' :: rest => repeated 1 none rest
    | '?' :: rest => repeated 0 (some 1) rest
    | '{' :: rest => do
      let ((least, most), rest) ← readBounds flags rest
      repeated least most rest
    | '.' :: rest => goFlat (.take flags.point) rest
    | '^' :: rest => goFlat (.anchor flags.lineStart) rest
    | '$' :: rest => goFlat (.anchor flags.lineEnd) rest
    | '[' :: rest => do
      let ((set, depth), rest) ← readClass flags (rest.length + 1) rest
      goOn ⟨.take set, depth⟩ rest
    | '\\' :: rest => do
      match ← readEscape flags rest with
      | (.char c, rest) => goFlat (.take (flags.literal (CharSet.single c))) rest
      | (.set s, rest) => goFlat (.take s) rest
      | (.anchor a, rest) => goFlat (.anchor a) rest
    | '(' :: rest => do
      match ← readOpening flags rest with
      | (.switch flags, rest) =>
        readBody fuel flags before parts.addSwitch (src.step rest)
      | (.plain inner, rest) =>
        let (part, src) ← readBody fuel inner [] Parts.start (src.step rest)
        match src.rest with
        | ')' :: rest =>
          readBody fuel flags before (parts.add ⟨part.node, part.depth + 1⟩) (src.step rest)
        | _ => none
      | (.capture name, rest) =>
        let index := src.groups + 1
        if name.any fun n => (src.names.lookup n).isSome then none
        let names := match name with
          | some n => (n, index) :: src.names
          | none => src.names
        let (part, src) ← readBody fuel flags [] Parts.start ⟨rest, index, names⟩
        match src.rest with
        | ')' :: rest =>
          let group := Part.mk (.group index part.node) (part.depth + 1)
          readBody fuel flags before (parts.add group) (src.step rest)
        | _ => none
    | c :: rest => goFlat (.take (flags.literal (CharSet.single c))) rest

def maxDepth : Nat := 250

def readNode (text : String) : Option (Node × Source) := do
  let cs := text.toList
  let (part, src) ← readBody (cs.length + 1) Flags.off [] Parts.start ⟨cs, 0, []⟩
  if src.rest.isEmpty && part.depth ≤ maxDepth then return (part.node, src) else none

end RecordSync.Regex
