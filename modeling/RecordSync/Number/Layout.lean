import RecordSync.Number.Shortest

set_option autoImplicit false

namespace RecordSync

structure Layout where
  positional : Int → Bool
  keepPoint : Bool
  plusSign : Bool

namespace Layout

-- Document text: positional from `0.00001` to sixteen whole digits, and `1e+16` beyond.
def document : Layout := ⟨fun e => -5 ≤ e && e ≤ 15, true, true⟩

def plain : Layout := ⟨fun _ => true, false, false⟩

def pointed : Layout := ⟨fun _ => true, true, false⟩

def scientific : Layout := ⟨fun _ => false, false, false⟩

def zeros (n : Nat) : List Char := List.replicate n '0'

def place (layout : Layout) (ds : List Char) (e : Int) : List Char :=
  if e < 0 then '0' :: '.' :: zeros (-e - 1).toNat ++ ds
  else
    let whole := e.toNat + 1
    let front := ds.take whole ++ zeros (whole - ds.length)
    match ds.drop whole with
    | [] => if layout.keepPoint then front ++ ['.', '0'] else front
    | fraction => front ++ '.' :: fraction

def exponential (layout : Layout) (ds : List Char) (e : Int) : List Char :=
  let lead := match ds with
    | d :: rest => d :: if rest.isEmpty then [] else '.' :: rest
    | [] => []
  let sign := if e < 0 then ['-'] else if layout.plusSign then ['+'] else []
  lead ++ 'e' :: sign ++ Nat.toDigits 10 e.natAbs

def magnitude (layout : Layout) (b : BinaryFloat) : List Char :=
  if b.mantissa = 0 then layout.place ['0'] 0
  else
    let d := Decimal.shortest b
    let ds := Nat.toDigits 10 d.digits
    let e := d.exponent + ds.length - 1
    if layout.positional e then layout.place ds e else layout.exponential ds e

def render (layout : Layout) (f : Float) : String :=
  if f.isNaN then "NaN"
  else
    let body := if f.isFinite then layout.magnitude (BinaryFloat.ofFloat f) else ['i', 'n', 'f']
    String.ofList (if f.toBits.toNat / 0x8000000000000000 = 1 then '-' :: body else body)

end Layout

end RecordSync
