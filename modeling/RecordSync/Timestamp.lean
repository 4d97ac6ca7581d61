import RecordSync.Document.Decode
import RecordSync.Number.Numeral
import RecordSync.Text.Blank

set_option autoImplicit false

namespace RecordSync

-- Seconds since the start of 1970 and nanoseconds past the second.
structure Timestamp where
  seconds : Int
  nanos : Nat
  deriving DecidableEq, Repr

namespace Timestamp

def before (a b : Timestamp) : Bool :=
  a.seconds < b.seconds || (a.seconds = b.seconds && a.nanos < b.nanos)

def daysOfDate (year : Int) (month day : Nat) : Int :=
  let y := if month ≤ 2 then year - 1 else year
  let era := y.fdiv 400
  let yoe := y - era * 400
  let m : Int := if month ≤ 2 then month + 9 else month - 3
  let doy := (153 * m + 2) / 5 + day - 1
  let doe := yoe * 365 + yoe / 4 - yoe / 100 + doy
  era * 146097 + doe - 719468

def dateOfDays (days : Int) : Int × Nat × Nat :=
  let z := days + 719468
  let era := z.fdiv 146097
  let doe := z - era * 146097
  let yoe := (doe - doe / 1460 + doe / 36524 - doe / 146096) / 365
  let doy := doe - (365 * yoe + yoe / 4 - yoe / 100)
  let mp := (5 * doy + 2) / 153
  let day := (doy - (153 * mp + 2) / 5 + 1).toNat
  let month := (if mp < 10 then mp + 3 else mp - 9).toNat
  let year := yoe + era * 400
  (if month ≤ 2 then year + 1 else year, month, day)

def isLeapYear (year : Int) : Bool :=
  year.fmod 4 = 0 && (year.fmod 100 != 0 || year.fmod 400 = 0)

def daysInMonth (year : Int) (month : Nat) : Nat :=
  if month = 2 then if isLeapYear year then 29 else 28
  else if month = 4 || month = 6 || month = 9 || month = 11 then 30
  else 31

def padded (width n : Nat) : List Char :=
  let ds := Nat.toDigits 10 n
  List.replicate (width - ds.length) '0' ++ ds

def fraction (nanos : Nat) : List Char :=
  if nanos = 0 then []
  else if nanos % 1000000 = 0 then '.' :: padded 3 (nanos / 1000000)
  else if nanos % 1000 = 0 then '.' :: padded 6 (nanos / 1000)
  else '.' :: padded 9 nanos

def renderYear (year : Int) : List Char :=
  if 0 ≤ year ∧ year ≤ 9999 then padded 4 year.natAbs
  else (if year < 0 then '-' else '+') :: padded 4 year.natAbs

def render (t : Timestamp) : String :=
  let days := t.seconds.fdiv 86400
  let second := (t.seconds - days * 86400).toNat
  let leap := t.nanos / 1000000000
  let (year, month, day) := dateOfDays days
  String.ofList <| renderYear year ++ '-' :: padded 2 month ++ '-' :: padded 2 day ++
    'T' :: padded 2 (second / 3600) ++ ':' :: padded 2 (second / 60 % 60) ++
    ':' :: padded 2 (second % 60 + leap) ++ fraction (t.nanos % 1000000000) ++ ['Z']

def number? (width : Nat) (cs : List Char) : Option (Nat × List Char) :=
  let cs := Text.trimStart cs
  let ds := (cs.take width).takeWhile Numeral.isDigit
  if ds.isEmpty then none else some (Numeral.digitsValue ds, cs.drop ds.length)

def digits? (cs : List Char) : Option (Nat × List Char) :=
  let ds := cs.takeWhile Numeral.isDigit
  if ds.isEmpty then none else some (Numeral.digitsValue ds, cs.dropWhile Numeral.isDigit)

def year? (cs : List Char) : Option (Int × List Char) :=
  match Text.trimStart cs with
  | '-' :: rest => (digits? rest).map fun (n, rest) => (-Int.ofNat n, rest)
  | '+' :: rest => (digits? rest).map fun (n, rest) => (Int.ofNat n, rest)
  | rest => (number? 4 rest).map fun (n, rest) => (Int.ofNat n, rest)

def mark? (c : Char) (cs : List Char) : Option (List Char) :=
  match Text.trimStart cs with
  | d :: rest => if c = d then some rest else none
  | [] => none

def nanos? : List Char → Option (Nat × List Char)
  | '.' :: cs =>
    let ds := cs.takeWhile Numeral.isDigit
    if ds.isEmpty then none
    else
      let kept := ds.take 9
      some (Numeral.digitsValue kept * Nat.pow 10 (9 - kept.length), cs.dropWhile Numeral.isDigit)
  | cs => some (0, cs)

def offset? (cs : List Char) : Option (Int × List Char) :=
  match cs with
  | 'Z' :: rest | 'z' :: rest => some (0, rest)
  | _ =>
    if (cs.take 3).map Numeral.lowerAscii = ['u', 't', 'c'] then some (0, cs.drop 3)
    else
      match cs with
      | [] => none
      | sign :: rest =>
        if sign = '+' || sign = '-' || sign.toNat = 0x2212 then do
          let hours := rest.take 2
          let rest := (rest.drop 2).dropWhile fun c => c = ':' || Text.isBlank c
          let minutes := rest.take 2
          if hours.length = 2 && minutes.length = 2 && (hours ++ minutes).all Numeral.isDigit then
            let h := Numeral.digitsValue hours
            let m := Numeral.digitsValue minutes
            if m < 60 && h < 24 then
              let total := Int.ofNat (h * 3600 + m * 60)
              some (if sign = '+' then total else -total, rest.drop 2)
            else none
          else none
        else none

def years : Int × Int := (-262143, 262142)

def isInYears (seconds : Int) : Bool :=
  daysOfDate years.1 1 1 * 86400 ≤ seconds && seconds < daysOfDate (years.2 + 1) 1 1 * 86400

def parse? (s : String) : Option Timestamp := do
  let (year, cs) ← year? s.toList
  let cs ← mark? '-' cs
  let (month, cs) ← number? 2 cs
  let cs ← mark? '-' cs
  let (day, cs) ← number? 2 cs
  let cs ← match cs with
    | c :: rest => if c = 'T' || c = 't' || c = ' ' then some rest else none
    | [] => none
  let (hour, cs) ← number? 2 cs
  let cs ← mark? ':' cs
  let (minute, cs) ← number? 2 cs
  let cs ← mark? ':' cs
  let (second, cs) ← number? 2 cs
  let (nanos, cs) ← nanos? cs
  let (offset, cs) ← offset? (Text.trimStart cs)
  if !(Text.trimStart cs).isEmpty then none
  else if year < years.1 || years.2 < year || month < 1 || 12 < month || day < 1 ||
      daysInMonth year month < day || 23 < hour || 59 < minute || 60 < second then none
  else
    let leap := second / 60
    let wall := daysOfDate year month day * 86400 +
      Int.ofNat (hour * 3600 + minute * 60 + (second - leap))
    if isInYears (wall - offset) then some ⟨wall - offset, nanos + leap * 1000000000⟩ else none

def toValue (t : Timestamp) : Value := .string t.render

def ofValue (v : Value) : Decoded Timestamp := do
  match parse? (← Decode.string v) with
  | some t => return t
  | none => throw .invalid

end Timestamp

end RecordSync
