import RecordSync.Text.Blank
import RecordSync.Bundled.Text.Case
import RecordSync.Bundled.Text.WordTable

set_option autoImplicit false

namespace RecordSync.Regex

inductive CharSet where
  | span (low high : Nat)
  | digit
  | word
  | blank
  | union (a b : CharSet)
  | inter (a b : CharSet)
  | diff (a b : CharSet)
  | complement (a : CharSet)
  | anyCase (a : CharSet)
  deriving DecidableEq, Repr

namespace CharSet

def none : CharSet := .span 1 0

def every : CharSet := .span 0 0x10FFFF

def single (c : Char) : CharSet := .span c.toNat c.toNat

def holds : CharSet → Char → Bool
  | .span low high, c => low ≤ c.toNat && c.toNat ≤ high
  | .digit, c => Text.isDecimalDigit c
  | .word, c => Text.isWord c
  | .blank, c => Text.isBlank c
  | .union a b, c => a.holds c || b.holds c
  | .inter a b, c => a.holds c && b.holds c
  | .diff a b, c => a.holds c && !b.holds c
  | .complement a, c => !a.holds c
  | .anyCase a, c => (Text.caseFamily c).any fun d => a.holds d

end CharSet

-- Conditions on a position between two characters. A line ends at a line feed; where `pairs` are
-- told apart, it ends at a carriage return too, and both together are one end.
inductive Anchor where
  | textStart
  | textEnd
  | lineStart (pairs : Bool)
  | lineEnd (pairs : Bool)
  | wordBoundary
  | notWordBoundary
  | wordStart
  | wordEnd
  | wordStartHalf
  | wordEndHalf
  deriving DecidableEq, Repr

namespace Anchor

def isWordAt : Option Char → Bool
  | some c => Text.isWord c
  | none => false

def holds (before after : Option Char) : Anchor → Bool
  | .textStart => before.isNone
  | .textEnd => after.isNone
  | .lineStart pairs =>
    before.isNone || before == some '\n' ||
      (pairs && before == some '\r' && after != some '\n')
  | .lineEnd pairs =>
    after.isNone || (after == some '\n' && !(pairs && before == some '\r')) ||
      (pairs && after == some '\r')
  | .wordBoundary => isWordAt before != isWordAt after
  | .notWordBoundary => isWordAt before == isWordAt after
  | .wordStart => !isWordAt before && isWordAt after
  | .wordEnd => isWordAt before && !isWordAt after
  | .wordStartHalf => !isWordAt before
  | .wordEndHalf => !isWordAt after

end Anchor

-- How often a part repeats: at least `least` times, at most `most` times if there is a bound, as
-- often as possible when `greedy`.
structure Count where
  least : Nat
  most : Option Nat
  greedy : Bool
  deriving DecidableEq, Repr

inductive Node where
  | empty
  | take (set : CharSet)
  | anchor (a : Anchor)
  | sequence (a b : Node)
  | choice (a b : Node)
  | many (body : Node) (count : Count)
  | group (index : Nat) (body : Node)
  deriving Repr

namespace Node

def isNullable : Node → Bool
  | .empty | .anchor _ => true
  | .take _ => false
  | .sequence a b => a.isNullable && b.isNullable
  | .choice a b => a.isNullable || b.isNullable
  | .many body count => count.least = 0 || body.isNullable
  | .group _ body => body.isNullable

def isWidthless : Node → Bool
  | .empty | .anchor _ => true
  | .take _ => false
  | .sequence a b | .choice a b => a.isWidthless && b.isWidthless
  | .many body count => count.most = some 0 || body.isWidthless
  | .group _ body => body.isWidthless

end Node

end RecordSync.Regex
