import RecordSync.Bundled.Script.Expr
import RecordSync.Bundled.Script.Token

set_option autoImplicit false

namespace RecordSync.Script

namespace Grammar

def deepest : Nat := 64

structure Infix where
  strength : Nat
  rightward : Bool
  build : Expr → Expr → Option Expr

namespace Infix

def ofBinary (strength : Nat) (op : Binary) : Infix :=
  ⟨strength, false, fun a b => some (.binary op a b)⟩

def ofVerdict (strength : Nat) (op : Choice) : Infix :=
  ⟨strength, false, fun a b => if a.isUntrue || b.isUntrue then none else some (.choice op a b)⟩

def symbols : List (String × Infix) :=
  [("||", ofVerdict 30 .either), ("|", ofBinary 30 (.arithmetic .bitOr)),
    ("^", ofBinary 30 (.arithmetic .bitXor)), ("&&", ofVerdict 60 .both),
    ("&", ofBinary 60 (.arithmetic .bitAnd)),
    ("==", ofBinary 90 (.compare .equal)), ("!=", ofBinary 90 (.compare .unequal)),
    ("!in", ⟨110, false, fun a b => some (.unary .not (.binary .isIn a b))⟩),
    ("<", ofBinary 130 (.compare .less)), ("<=", ofBinary 130 (.compare .atMost)),
    (">", ofBinary 130 (.compare .greater)), (">=", ofBinary 130 (.compare .atLeast)),
    ("??", ⟨135, false, fun a b => some (.choice .ifUnit a b)⟩),
    ("..", ofBinary 140 (.range false)), ("..=", ofBinary 140 (.range true)),
    ("+", ofBinary 150 (.arithmetic .add)), ("-", ofBinary 150 (.arithmetic .subtract)),
    ("*", ofBinary 180 (.arithmetic .multiply)), ("/", ofBinary 180 (.arithmetic .divide)),
    ("%", ofBinary 180 (.arithmetic .modulo)),
    ("**", ⟨190, true, fun a b => some (.binary (.arithmetic .power) a b)⟩),
    ("<<", ofBinary 210 (.arithmetic .shiftLeft)), (">>", ofBinary 210 (.arithmetic .shiftRight))]

def ofToken? : Token → Option Infix
  | .symbol s => Keyed.get? s symbols
  | .word "in" => some (ofBinary 110 .isIn)
  | _ => none

def next (op : Infix) : Nat :=
  if op.rightward then op.strength else op.strength + 1

end Infix

def strengthOf (ts : List Token) : Nat :=
  ((ts.head?.bind Infix.ofToken?).map Infix.strength).getD 0

def assignments : List (String × Option Arithmetic) :=
  [("=", none), ("+=", some .add), ("-=", some .subtract), ("*=", some .multiply),
    ("/=", some .divide), ("%=", some .modulo), ("**=", some .power), ("<<=", some .shiftLeft),
    (">>=", some .shiftRight), ("&=", some .bitAnd), ("|=", some .bitOr), ("^=", some .bitXor)]

def negated : Expr → Expr
  | .literal (.int n) => .literal ((Datum.checkedInt (-n)).getD (.float (-Float.ofInt n)))
  | .literal (.float f) => .literal (.float (-f))
  | e => .unary .negate e

def affirmed : Expr → Expr
  | .literal (.int n) => .literal (.int n)
  | .literal (.float f) => .literal (.float f)
  | e => .unary .affirm e

def follow (e : Expr) (way : List Link) : Expr :=
  if way.isEmpty then e else .chain e way

def expect (s : String) : List Token → Option (List Token)
  | .symbol t :: rest => if t = s then some rest else none
  | _ => none

def endsHere : List Token → Bool
  | [] => true
  | .symbol s :: _ => s = ";" || s = "\x7d"
  | _ => false

def closed : List Token → Bool
  | .symbol s :: _ => s = "\x7b"
  | .word w :: _ => w = "if" || w = "while" || w = "loop" || w = "for"
  | _ => false

def full (limit count : Nat) : Bool := limit ≠ 0 && limit ≤ count

def loopNames? : List Token → Option (String × Option String × List Token)
  | .name x :: .word "in" :: rest => some (x, none, rest)
  | .symbol "(" :: .name x :: .symbol "," :: .name i :: .symbol ")" :: .word "in" :: rest =>
    if x = i then none else some (x, some i, rest)
  | _ => none

mutual

def expr (limits : Limits) : Nat → Nat → List Token → Option (Expr × List Token)
  | 0, _, _ => none
  | fuel + 1, level, ts => do
    let (first, rest) ← operand limits fuel (level + 1) ts
    climb limits fuel (level + 1) 1 first rest

def climb (limits : Limits) : Nat → Nat → Nat → Expr → List Token → Option (Expr × List Token)
  | 0, _, _, _, _ => none
  | _, _, _, left, [] => some (left, [])
  | fuel + 1, level, least, left, t :: ts =>
    if deepest < level then none
    else
      match Infix.ofToken? t with
      | none => some (left, t :: ts)
      | some op =>
        if op.strength < least then some (left, t :: ts)
        else do
          let (right, rest) ← operand limits fuel (level + 1) ts
          let (right, rest) ←
            if op.next ≤ strengthOf rest then climb limits fuel (level + 1) op.next right rest
            else some (right, rest)
          climb limits fuel (level + 1) least (← op.build left right) rest

def operand (limits : Limits) : Nat → Nat → List Token → Option (Expr × List Token)
  | 0, _, _ => none
  | fuel + 1, level, ts =>
    if deepest < level then none
    else
      match ts with
      | .symbol "-" :: ts =>
        (operand limits fuel (level + 1) ts).map fun (e, rest) => (negated e, rest)
      | .symbol "+" :: ts =>
        (operand limits fuel (level + 1) ts).map fun (e, rest) => (affirmed e, rest)
      | .symbol "!" :: ts =>
        (operand limits fuel (level + 1) ts).map fun (e, rest) => (.unary .not e, rest)
      | ts => do
        let (e, rest) ← primary limits fuel level ts
        let (way, rest) ← steps limits fuel level (some e) rest
        return (follow e way, rest)

def primary (limits : Limits) : Nat → Nat → List Token → Option (Expr × List Token)
  | 0, _, _ => none
  | fuel + 1, level, ts =>
    match ts with
    | .int n :: rest => some (.literal (.int n), rest)
    | .float f :: rest => some (.literal (.float f), rest)
    | .char c :: rest => some (.literal (.char c), rest)
    | .text s :: rest => some (.literal (.string s), rest)
    | .word "true" :: rest => some (.literal (.bool true), rest)
    | .word "false" :: rest => some (.literal (.bool false), rest)
    | .name f :: .symbol "(" :: rest => do
      let (args, rest) ← arguments limits fuel level rest
      return (.call f args, rest)
    | .word "type_of" :: .symbol "(" :: rest => do
      let (args, rest) ← arguments limits fuel level rest
      return (.call Token.typeWord args, rest)
    | .name x :: rest => some (.variable x, rest)
    | .symbol "(" :: .symbol ")" :: rest => some (.literal .unit, rest)
    | .symbol "(" :: rest => do
      let (e, rest) ← expr limits fuel (level + 1) rest
      return (e, ← expect ")" rest)
    | .symbol "[" :: rest =>
      if deepest ≤ level then none
      else
        (items limits fuel (level + 2) limits.maxArraySize 0 "]" rest).map
          fun (xs, rest) => (.array xs, rest)
    | .symbol "#\x7b" :: rest =>
      if deepest ≤ level then none
      else (fields limits fuel (level + 2) [] rest).map fun (fields, rest) => (.map fields, rest)
    | ts => control limits fuel level ts

def arguments (limits : Limits) : Nat → Nat → List Token → Option (List Expr × List Token)
  | 0, _, _ => none
  | fuel + 1, level, ts => items limits fuel (level + 1) 0 0 ")" ts

def items (limits : Limits) :
    Nat → Nat → Nat → Nat → String → List Token → Option (List Expr × List Token)
  | 0, _, _, _, _, _ => none
  | fuel + 1, level, limit, count, close, ts =>
    if full limit count then none
    else
      match expect close ts with
      | some rest => some ([], rest)
      | none => do
        let (e, rest) ← expr limits fuel level ts
        match expect "," rest with
        | some rest =>
          let (es, rest) ← items limits fuel level limit (count + 1) close rest
          return (e :: es, rest)
        | none => if full limit (count + 1) then none else return ([e], ← expect close rest)

def fields (limits : Limits) :
    Nat → Nat → List String → List Token → Option (List (String × Expr) × List Token)
  | 0, _, _, _ => none
  | fuel + 1, level, seen, ts =>
    match expect "\x7d" ts with
    | some rest => some ([], rest)
    | none => do
      let (key, rest) ← match ts with
        | .name k :: rest => some (k, rest)
        | .text k :: rest => some (k, rest)
        | _ => none
      if seen.contains key || full limits.maxMapSize seen.length then none
      else
        let (e, rest) ← expr limits fuel level (← expect ":" rest)
        match expect "," rest with
        | some rest =>
          let (es, rest) ← fields limits fuel level (key :: seen) rest
          return ((key, e) :: es, rest)
        | none => return ([(key, e)], ← expect "\x7d" rest)

def steps (limits : Limits) :
    Nat → Nat → Option Expr → List Token → Option (List Link × List Token)
  | 0, _, _, _ => none
  | fuel + 1, level, start, ts =>
    match ts with
    | .symbol "[" :: _ | .symbol "?[" :: _ => do
      let (way, rest) ← indexes limits fuel (level + 1) start ts
      let (more, rest) ← steps limits fuel level none rest
      return (way ++ more, rest)
    | .symbol "." :: rest => member limits fuel (level + 1) rest
    | .symbol "?." :: rest => do
      let (way, rest) ← member limits fuel (level + 1) rest
      return (.guard :: way, rest)
    | ts => some ([], ts)

def indexes (limits : Limits) :
    Nat → Nat → Option Expr → List Token → Option (List Link × List Token)
  | 0, _, _, _ => none
  | fuel + 1, level, start, ts =>
    if deepest < level then none
    else
      match ts with
      | .symbol "[" :: rest => index limits fuel level start rest
      | .symbol "?[" :: rest => do
        let (way, rest) ← index limits fuel level start rest
        return (.guard :: way, rest)
      | ts => some ([], ts)

def index (limits : Limits) :
    Nat → Nat → Option Expr → List Token → Option (List Link × List Token)
  | 0, _, _, _ => none
  | fuel + 1, level, start, ts => do
    let (i, rest) ← expr limits fuel (level + 1) ts
    let rest ← expect "]" rest
    if start.any fun e => !e.mayIndex i then none
    else
      match rest with
      | .symbol "[" :: _ | .symbol "?[" :: _ => do
        let (way, rest) ← indexes limits fuel (level + 1) none rest
        return (.index i :: way, rest)
      | rest => return ([.index i], rest)

def member (limits : Limits) : Nat → Nat → List Token → Option (List Link × List Token)
  | 0, _, _ => none
  | fuel + 1, level, ts => do
    let (link, rest) ← match ts with
      | .name f :: .symbol "(" :: rest => do
        let (args, rest) ← arguments limits fuel level rest
        some (Link.method f args, rest)
      | .word "type_of" :: .symbol "(" :: rest => do
        let (args, rest) ← arguments limits fuel level rest
        some (Link.method Token.typeWord args, rest)
      | .name k :: rest => some (Link.property k, rest)
      | _ => none
    if deepest < level then none
    else
      let (way, rest) ← steps limits fuel level none rest
      return (link :: way, rest)

def control (limits : Limits) : Nat → Nat → List Token → Option (Expr × List Token)
  | 0, _, _ => none
  | fuel + 1, level, ts =>
    match ts with
    | .symbol "\x7b" :: _ =>
      (block limits fuel (level + 1) ts).map fun (body, rest) => (.block body, rest)
    | .word "if" :: rest => do
      let (condition, rest) ← verdict limits fuel (level + 1) rest
      let (yes, rest) ← block limits fuel (level + 2) rest
      match rest with
      | .word "else" :: .word "if" :: tail =>
        let (no, rest) ← control limits fuel (level + 1) (.word "if" :: tail)
        return (.branch condition yes [no], rest)
      | .word "else" :: tail =>
        let (no, rest) ← block limits fuel (level + 2) tail
        return (.branch condition yes no, rest)
      | rest => return (.branch condition yes [], rest)
    | .word "while" :: rest => do
      let (condition, rest) ← verdict limits fuel (level + 1) rest
      let (body, rest) ← block limits fuel (level + 2) rest
      return (.loop (some condition) body, rest)
    | .word "loop" :: rest => do
      let (body, rest) ← block limits fuel (level + 2) rest
      return (.loop none body, rest)
    | .word "for" :: rest => do
      let (x, counter, rest) ← loopNames? rest
      let (source, rest) ← condition limits fuel (level + 1) rest
      if source.isSingle then none
      else
        let (body, rest) ← block limits fuel (level + 2) rest
        return (.forEach x counter source body, rest)
    | _ => none

def condition (limits : Limits) : Nat → Nat → List Token → Option (Expr × List Token)
  | 0, _, _ => none
  | fuel + 1, level, ts => if (expect "\x7b" ts).isSome then none else expr limits fuel level ts

def verdict (limits : Limits) : Nat → Nat → List Token → Option (Expr × List Token)
  | 0, _, _ => none
  | fuel + 1, level, ts => do
    let (e, rest) ← condition limits fuel level ts
    if e.isUntrue then none else return (e, rest)

def block (limits : Limits) : Nat → Nat → List Token → Option (List Expr × List Token)
  | 0, _, _ => none
  | fuel + 1, level, ts =>
    if deepest < level then none
    else do
      let (body, rest) ← statements limits fuel (level + 1) (← expect "\x7b" ts)
      return (body, ← expect "\x7d" rest)

def statements (limits : Limits) : Nat → Nat → List Token → Option (List Expr × List Token)
  | 0, _, _ => none
  | fuel + 1, level, ts =>
    match ts with
    | [] => some ([], [])
    | .symbol "\x7d" :: _ => some ([], ts)
    | .symbol ";" :: rest => statements limits fuel level rest
    | ts => do
      let (e, rest) ← statement limits fuel level ts
      if endsHere rest || closed ts then
        let (es, rest) ← statements limits fuel level rest
        return (e :: es, rest)
      else none

def optional (limits : Limits) : Nat → Nat → List Token → Option (Option Expr × List Token)
  | 0, _, _ => none
  | fuel + 1, level, ts =>
    if endsHere ts then some (none, ts)
    else (expr limits fuel level ts).map fun (e, rest) => (some e, rest)

def statement (limits : Limits) : Nat → Nat → List Token → Option (Expr × List Token)
  | 0, _, _ => none
  | fuel + 1, level, ts =>
    if deepest < level then none
    else
      match ts with
      | .word "let" :: .name x :: rest => declaration limits fuel level false x rest
      | .word "const" :: .name x :: rest => declaration limits fuel level true x rest
      | .word "return" :: rest =>
        (optional limits fuel level rest).map fun (e, rest) => (.leave e, rest)
      | .word "throw" :: rest =>
        (optional limits fuel level rest).map fun (e, rest) => (.throw e, rest)
      | .word "break" :: rest =>
        (optional limits fuel level rest).map fun (e, rest) => (.exitLoop e, rest)
      | .word "continue" :: rest => some (.nextRound, rest)
      | ts =>
        if closed ts then control limits fuel level ts
        else do
          let (target, rest) ← expr limits fuel level ts
          match rest with
          | .symbol s :: tail =>
            match Keyed.get? s assignments with
            | some op =>
              let (value, rest) ← expr limits fuel level tail
              return (.assign target op value, rest)
            | none => return (target, rest)
          | rest => return (target, rest)

def declaration (limits : Limits) :
    Nat → Nat → Bool → String → List Token → Option (Expr × List Token)
  | 0, _, _, _, _ => none
  | fuel + 1, level, constant, name, ts =>
    match expect "=" ts with
    | some rest =>
      (expr limits fuel (level + 1) rest).map
        fun (e, rest) => (.declare constant name (some e), rest)
    | none => some (.declare constant name none, ts)

end

def read (limits : Limits) (code : String) : Option (List Expr) := do
  let ts ← Token.scan limits code
  match ← statements limits (16 * (ts.length + 1)) 1 ts with
  | (body, []) => return body
  | _ => none

end Grammar

end RecordSync.Script
