set_option autoImplicit false

namespace RecordSync

inductive NumeralError where
  | empty
  | invalidDigit
  | tooLarge
  | tooSmall
  deriving DecidableEq, Repr

namespace NumeralError

def message : NumeralError → String
  | .empty => "cannot parse integer from empty string"
  | .invalidDigit => "invalid digit found in string"
  | .tooLarge => "number too large to fit in target type"
  | .tooSmall => "number too small to fit in target type"

end NumeralError

namespace Numeral

def digit? (c : Char) : Option Nat :=
  if '0' ≤ c ∧ c ≤ '9' then some (c.toNat - '0'.toNat) else none

-- The value of a digit string in front of which `acc` was read. The first fault from the left wins:
-- a character that is no digit, or a value above `bound`.
def natWithin (bound : Nat) (acc : Nat) : List Char → Except NumeralError Nat
  | [] => .ok acc
  | c :: cs =>
    match digit? c with
    | none => .error .invalidDigit
    | some d =>
      let value := acc * 10 + d
      if value ≤ bound then natWithin bound value cs else .error .tooLarge

def nat? (bound : Nat) (cs : List Char) : Except NumeralError Nat :=
  match cs with
  | [] => .error .empty
  | ['+'] => .error .invalidDigit
  | '+' :: rest => natWithin bound 0 rest
  | rest => natWithin bound 0 rest

def wordBound : Nat := 0xFFFFFFFFFFFFFFFF

def index? (s : String) : Option Nat :=
  (nat? wordBound s.toList).toOption

def int64? (cs : List Char) : Option Int :=
  match cs with
  | '-' :: rest =>
    if rest.isEmpty then none
    else (natWithin 0x8000000000000000 0 rest).toOption.map fun n => -Int.ofNat n
  | _ => (nat? 0x7FFFFFFFFFFFFFFF cs).toOption.map Int.ofNat

def digitsValue (cs : List Char) : Nat :=
  cs.foldl (fun acc c => acc * 10 + (digit? c).getD 0) 0

def nearest (m : Nat) (e : Int) : Float :=
  let top := (Nat.toDigits 10 m).length + e
  if m = 0 ∨ top < -400 then 0.0
  else if 400 < top then 1.0 / 0.0
  else if e < 0 then Float.ofScientific m true e.natAbs
  else Float.ofScientific m false e.natAbs

def lowerAscii (c : Char) : Char :=
  if 'A' ≤ c ∧ c ≤ 'Z' then Char.ofNat (c.toNat + 32) else c

def exponent? : List Char → Option Int
  | [] => some 0
  | mark :: cs =>
    if mark = 'e' ∨ mark = 'E' then
      let (negative, ds) := match cs with
        | '-' :: ds => (true, ds)
        | '+' :: ds => (false, ds)
        | ds => (false, ds)
      if ds.isEmpty || ds.any (fun c => (digit? c).isNone) then none
      else
        let n := min (digitsValue ds) 1000000
        some (if negative then -Int.ofNat n else Int.ofNat n)
    else none

def isDigit (c : Char) : Bool := (digit? c).isSome

def unsignedFloat? (cs : List Char) : Option Float :=
  match cs.map lowerAscii with
  | ['i', 'n', 'f'] => some (1.0 / 0.0)
  | ['i', 'n', 'f', 'i', 'n', 'i', 't', 'y'] => some (1.0 / 0.0)
  | ['n', 'a', 'n'] => some (0.0 / 0.0)
  | _ =>
    let whole := cs.takeWhile isDigit
    let (fraction, tail) := match cs.dropWhile isDigit with
      | '.' :: rest => (rest.takeWhile isDigit, rest.dropWhile isDigit)
      | rest => ([], rest)
    if whole.isEmpty && fraction.isEmpty then none
    else (exponent? tail).map fun e =>
      nearest (digitsValue (whole ++ fraction)) (e - Int.ofNat fraction.length)

def float? (cs : List Char) : Option Float :=
  match cs with
  | '-' :: rest => (unsignedFloat? rest).map fun f => -f
  | '+' :: rest => unsignedFloat? rest
  | rest => unsignedFloat? rest

end Numeral

end RecordSync
