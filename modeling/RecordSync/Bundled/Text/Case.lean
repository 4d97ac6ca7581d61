import RecordSync.Bundled.Text.CaseTable
import RecordSync.Bundled.Text.CasedTable

set_option autoImplicit false

namespace RecordSync.Text

def moved? (table : List (Nat × Nat × Nat × Int)) (n : Nat) : Option Nat :=
  (table.find? fun (low, high, step, _) =>
    low ≤ n && n ≤ high && (n - low) % step = 0).map fun (_, _, _, d) => (Int.ofNat n + d).toNat

def lowerChar (c : Char) : Char :=
  match moved? lowerTable c.toNat with
  | some n => Char.ofNat n
  | none => c

def upperChar (c : Char) : Char :=
  match moved? upperTable c.toNat with
  | some n => Char.ofNat n
  | none => c

def upperChars (c : Char) : List Char :=
  match upperExpansions.find? fun (n, _) => n = c.toNat with
  | some (_, ns) => ns.map Char.ofNat
  | none => [upperChar c]

def uppercase (s : String) : String :=
  String.ofList (s.toList.flatMap upperChars)

def sigma : Char := Char.ofNat 0x3A3

def isFinalSigma (before after : List Char) : Bool :=
  let first (cs : List Char) := ((cs.dropWhile isCaseIgnorable).head?.map isCased).getD false
  first before && !first after

def lowerChars (before : List Char) : List Char → List Char
  | [] => []
  | c :: cs =>
    let lower :=
      if c = sigma then [Char.ofNat (if isFinalSigma before cs then 0x3C2 else 0x3C3)]
      else if c.toNat = 0x130 then ['i', Char.ofNat 0x307]
      else [lowerChar c]
    lower ++ lowerChars (c :: before) cs

def lowercase (s : String) : String :=
  String.ofList (lowerChars [] s.toList)

def caseFamily (c : Char) : List Char :=
  match caseFamilies.find? fun family => family.contains c.toNat with
  | some family => family.map Char.ofNat
  | none => [c, lowerChar c, upperChar c]

end RecordSync.Text
