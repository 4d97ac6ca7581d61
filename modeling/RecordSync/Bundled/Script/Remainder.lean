import RecordSync.Number.Shortest

set_option autoImplicit false

namespace RecordSync

namespace BinaryFloat

def remainder (a b : BinaryFloat) : Float :=
  let low := min a.exponent b.exponent
  let m := a.mantissa * Nat.pow 2 (a.exponent - low).toNat
  let n := b.mantissa * Nat.pow 2 (b.exponent - low).toNat
  (Float.ofNat (m % n)).scaleB low

end BinaryFloat

namespace Number

def remainder (a b : Float) : Float :=
  if a.isNaN || b.isNaN || a.isInf || b == 0.0 then 0.0 / 0.0
  else if b.isInf then a
  else
    let r := (BinaryFloat.ofFloat a).remainder (BinaryFloat.ofFloat b)
    if a.toBits.toNat / 0x8000000000000000 = 1 then -r else r

end Number

end RecordSync
