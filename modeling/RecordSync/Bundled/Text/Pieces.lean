set_option autoImplicit false

namespace RecordSync.Text

def cutFirst (sep : List Char) : List Char → Option (List Char × List Char)
  | [] => if sep.isEmpty then some ([], []) else none
  | c :: cs =>
    if sep.isPrefixOf (c :: cs) then some ([], (c :: cs).drop sep.length)
    else (cutFirst sep cs).map fun (before, after) => (c :: before, after)

def piecesWithin (sep : List Char) : Nat → List Char → List (List Char)
  | 0, cs => [cs]
  | n + 1, cs =>
    match cutFirst sep cs with
    | none => [cs]
    | some (before, after) => before :: piecesWithin sep n after

-- An empty separator stands before every character and at the end.
def pieces (sep text : String) : List String :=
  if sep.isEmpty then "" :: text.toList.map String.singleton ++ [""]
  else (piecesWithin sep.toList text.toList.length text.toList).map String.ofList

def substitute (sep replacement text : String) : String :=
  replacement.intercalate (pieces sep text)

def words (isGap : Char → Bool) : List Char → List (List Char)
  | [] => []
  | c :: cs =>
    if isGap c then words isGap cs
    else
      match words isGap cs, cs.head?.all isGap with
      | word :: rest, false => (c :: word) :: rest
      | rest, _ => [c] :: rest

end RecordSync.Text
