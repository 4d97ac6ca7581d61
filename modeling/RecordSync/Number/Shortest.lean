set_option autoImplicit false

namespace RecordSync

structure Decimal where
  digits : Nat
  exponent : Int
  deriving DecidableEq, Repr

-- The number `mantissa · 2^exponent`, with `least` telling that the gap below it is half the gap
-- above it.
structure BinaryFloat where
  mantissa : Nat
  exponent : Int
  least : Bool
  deriving DecidableEq, Repr

namespace BinaryFloat

def ofFloat (f : Float) : BinaryFloat :=
  let bits := f.toBits.toNat
  let fraction := bits % 0x10000000000000
  let biased := bits / 0x10000000000000 % 0x800
  if biased = 0 then ⟨fraction, -1074, false⟩
  else ⟨0x10000000000000 + fraction, Int.ofNat biased - 1075, fraction = 0 && biased != 1⟩

def quarters (b : BinaryFloat) : Nat := 4 * b.mantissa

def lower (b : BinaryFloat) : Nat := b.quarters - if b.least then 1 else 2

def upper (b : BinaryFloat) : Nat := b.quarters + 2

end BinaryFloat

def compareScaled (x : Nat) (q : Int) (d : Nat) (k : Int) : Ordering :=
  compare (x * Nat.pow 2 q.toNat * Nat.pow 10 (-k).toNat)
    (d * Nat.pow 10 k.toNat * Nat.pow 2 (-q).toNat)

namespace Decimal

-- Whether a decimal rounds to `b`: it lies between the bounds, which count when the mantissa is
-- even.
def roundsTo (d : Decimal) (b : BinaryFloat) : Bool :=
  let low := compareScaled b.lower (b.exponent - 2) d.digits d.exponent
  let high := compareScaled b.upper (b.exponent - 2) d.digits d.exponent
  if b.mantissa % 2 = 0 then low != .gt && high != .lt else low == .lt && high == .gt

def floorOn (k : Int) (b : BinaryFloat) : Decimal :=
  let num := b.mantissa * Nat.pow 2 b.exponent.toNat * Nat.pow 10 (-k).toNat
  let den := Nat.pow 2 (-b.exponent).toNat * Nat.pow 10 k.toNat
  ⟨num / den, k⟩

def next (d : Decimal) : Decimal := ⟨d.digits + 1, d.exponent⟩

def isNearer (d : Decimal) (b : BinaryFloat) : Bool :=
  match compareScaled (2 * b.mantissa) b.exponent (2 * d.digits + 1) d.exponent with
  | .lt => true
  | .eq => d.digits % 2 = 0
  | .gt => false

def onGrid (k : Int) (b : BinaryFloat) : Option Decimal :=
  let below := floorOn k b
  let above := below.next
  match below.roundsTo b, above.roundsTo b with
  | true, true => some (if below.isNearer b then below else above)
  | true, false => some below
  | false, true => some above
  | false, false => none

def magnitude (b : BinaryFloat) : Int :=
  let num := b.mantissa * Nat.pow 2 b.exponent.toNat
  let den := Nat.pow 2 (-b.exponent).toNat
  if den ≤ num then (Nat.toDigits 10 (num / den)).length - 1
  else -((Nat.toDigits 10 (den / num)).length : Int)

def dropZeros : Nat → Decimal → Decimal
  | 0, d => d
  | n + 1, d => if d.digits % 10 = 0 then dropZeros n ⟨d.digits / 10, d.exponent + 1⟩ else d

def shortest (b : BinaryFloat) : Decimal :=
  let e := magnitude b
  let found := (List.range 17).findSome? fun n => onGrid (e - Int.ofNat n) b
  dropZeros 17 (found.getD (floorOn (e - 16) b))

end Decimal

end RecordSync
