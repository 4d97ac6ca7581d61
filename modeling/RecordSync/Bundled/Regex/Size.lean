import RecordSync.Bundled.Regex.Node

set_option autoImplicit false

namespace RecordSync.Regex

namespace CharSet

def coalesce : List (Nat × Nat) → List (Nat × Nat)
  | [] => []
  | [r] => [r]
  | (a, b) :: (c, d) :: rest =>
    if c ≤ b + 1 then coalesce ((a, max b d) :: rest) else (a, b) :: coalesce ((c, d) :: rest)
termination_by rs => rs.length

def join (a b : List (Nat × Nat)) : List (Nat × Nat) :=
  coalesce ((a ++ b).mergeSort fun x y => x.1 ≤ y.1)

def gaps (start : Nat) : List (Nat × Nat) → List (Nat × Nat)
  | [] => if start ≤ 0x10FFFF then [(start, 0x10FFFF)] else []
  | (a, b) :: rest => if start < a then (start, a - 1) :: gaps (b + 1) rest else gaps (b + 1) rest

def meet (a b : List (Nat × Nat)) : List (Nat × Nat) :=
  gaps 0 (join (gaps 0 a) (gaps 0 b))

def casePairs : List Nat :=
  let moved := (Text.lowerTable ++ Text.upperTable).flatMap fun (low, high, step, _) =>
    (List.range ((high - low) / step + 1)).map fun i => low + step * i
  moved ++ Text.caseFamilies.flatten

-- Ranges with the other cases of their characters: those of each character of short ranges, and
-- else those characters of the tables whose other cases are in the ranges.
def closeCase (rs : List (Nat × Nat)) : List (Nat × Nat) :=
  let size := rs.foldl (fun n (a, b) => n + (b + 1 - a)) 0
  let family (n : Nat) : List Nat := (Text.caseFamily (Char.ofNat n)).map Char.toNat
  if size ≤ 64 then
    join rs ((rs.flatMap fun (a, b) => (List.range (b + 1 - a)).flatMap fun i => family (a + i)).map
      fun n => (n, n))
  else
    let isIn (n : Nat) : Bool := rs.any fun (a, b) => a ≤ n && n ≤ b
    join rs ((casePairs.filter fun n => (family n).any isIn).map fun n => (n, n))

def ranges : CharSet → List (Nat × Nat)
  | .span low high => if low ≤ high then [(low, high)] else []
  | .digit => (0x30, 0x39) :: Text.digitRanges
  | .word => (0x30, 0x39) :: (0x41, 0x5A) :: (0x5F, 0x5F) :: (0x61, 0x7A) :: Text.wordRanges
  | .blank => [(0x09, 0x0D), (0x20, 0x20), (0x85, 0x85), (0xA0, 0xA0), (0x1680, 0x1680),
      (0x2000, 0x200A), (0x2028, 0x2029), (0x202F, 0x202F), (0x205F, 0x205F), (0x3000, 0x3000)]
  | .union a b => join a.ranges b.ranges
  | .inter a b => meet a.ranges b.ranges
  | .diff a b => meet a.ranges (gaps 0 b.ranges)
  | .complement a => gaps 0 a.ranges
  | .anyCase a => closeCase a.ranges

end CharSet

abbrev ByteRun := List (Nat × Nat)

namespace ByteRun

def digits : Nat → Nat → Nat → List ByteRun
  | 0, a, b => [[(a, b)]]
  | k + 1, a, b =>
    let unit := Nat.pow 64 (k + 1)
    let below (lead low high : Nat) := (digits k low high).map ((lead, lead) :: ·)
    if a / unit = b / unit then below (a / unit) (a % unit) (b % unit)
    else
      let front := if a % unit = 0 then [] else below (a / unit) (a % unit) (unit - 1)
      let back := if b % unit = unit - 1 then [] else below (b / unit) 0 (b % unit)
      let first := if a % unit = 0 then a / unit else a / unit + 1
      let last := if b % unit = unit - 1 then b / unit + 1 else b / unit
      let middle := if first < last then [(first, last - 1) :: List.replicate (k + 1) (0, 63)] else []
      front ++ middle ++ back

-- The characters whose encodings have as many bytes: the first and the last of them, the bytes
-- behind the first one, and what the first byte adds to its digit.
def widths : List (Nat × Nat × Nat × Nat) :=
  [(0, 0x7F, 0, 0), (0x80, 0x7FF, 1, 0xC0), (0x800, 0xD7FF, 2, 0xE0), (0xE000, 0xFFFF, 2, 0xE0),
    (0x10000, 0x10FFFF, 3, 0xF0)]

def shift : Nat → ByteRun → ByteRun
  | _, [] => []
  | n, (a, b) :: run => (a + n, b + n) :: shift 0x80 run

def ofRange (r : Nat × Nat) : List ByteRun :=
  widths.flatMap fun (low, high, k, lead) =>
    let a := max r.1 low
    let b := min r.2 high
    if a ≤ b then (digits k a b).map (shift lead) else []

def common : ByteRun → ByteRun → Nat
  | x :: xs, y :: ys => if x = y then common xs ys + 1 else 0
  | _, _ => 0

def beginnings (before : ByteRun) : List ByteRun → Nat
  | [] => 0
  | run :: rest => run.length - common before run + beginnings run rest

def byHead : List ByteRun → List ((Nat × Nat) × List ByteRun)
  | [] => []
  | [] :: rest => byHead rest
  | (x :: run) :: rest =>
    match byHead rest with
    | (y, tails) :: others => if x = y then (x, run :: tails) :: others else
      (x, [run]) :: (y, tails) :: others
    | [] => [(x, [run])]

-- The states of an automaton that shares ends: the ranges of bytes that each state takes, with the
-- states behind them.
abbrev Ends := List (List ((Nat × Nat) × Nat))

def place : Nat → List ByteRun → Ends → Nat × Ends
  | 0, _, ends => (0, ends)
  | fuel + 1, runs, ends =>
    match byHead runs with
    | [] => (0, ends)
    | groups =>
      let (state, ends) := groups.foldl
        (fun (state, ends) (x, tails) =>
          let (next, ends) := place fuel tails ends
          (state ++ [(x, next)], ends)) ([], ends)
      match ends.reverse.idxOf? state with
      | some i => (i + 1, ends)
      | none => (ends.length + 1, state :: ends)

end ByteRun

inductive Direction where
  | forward
  | backward
  deriving DecidableEq, Repr

namespace CharSet

def stateSize : Nat := 32

def memory (direction : Direction) (set : CharSet) : Nat :=
  let runs := set.ranges.flatMap ByteRun.ofRange
  if runs.length ≤ 1 && runs.all fun run => run.all fun (a, b) => a = b then
    max 1 runs.flatten.length * stateSize
  else if runs.all fun run => run.all fun (a, _) => a < 0x80 then 2 * stateSize + runs.length * 8
  else
    match direction with
    | .backward => (2 + ByteRun.beginnings [] runs) * stateSize + runs.length * 4
    | .forward =>
      let (_, ends) := ByteRun.place 5 runs []
      (1 + ends.length) * stateSize + ends.flatten.length * 8

end CharSet

namespace Node

def memory (direction : Direction) : Node → Nat
  | .empty | .anchor _ => CharSet.stateSize
  | .take set => set.memory direction
  | .sequence a b => a.memory direction + b.memory direction
  | .choice a b => a.memory direction + b.memory direction + 2 * CharSet.stateSize + 8
  | .group _ body =>
    body.memory direction + if direction = .forward then 2 * CharSet.stateSize else 0
  | .many body count =>
    let copy := body.memory direction
    let fork := CharSet.stateSize + 8
    let least := if body.isWidthless then min count.least 1 else count.least
    let most := if body.isWidthless then some (min (count.most.getD 1) 1) else count.most
    match most with
    | none =>
      if least = 0 then if body.isNullable then copy + 2 * fork + CharSet.stateSize else copy + fork
      else least * copy + fork
    | some most =>
      if most ≤ least then max CharSet.stateSize (least * copy)
      else least * copy + (most - least) * (copy + fork) + CharSet.stateSize

def maxMemory : Nat := 10485760

def frameMemory : Nat := 5 * CharSet.stateSize

def fits (n : Node) : Bool :=
  n.memory .backward + frameMemory ≤ maxMemory && n.memory .forward + frameMemory ≤ maxMemory

end Node

end RecordSync.Regex
