import RecordSync.Bundled.Yaml.Scalar

set_option autoImplicit false

namespace RecordSync.Yaml

def startsItem (cur : Cursor) : Bool :=
  match cur.rest with
  | '-' :: rest => atBoundary rest
  | _ => false

def endsFlowValue (cur : Cursor) : Bool :=
  match cur.rest with
  | c :: _ => c = ',' || c = ']' || c = '\x7d'
  | [] => false

def longestKey : Nat := 1024

-- The place behind the colon of the scalar that starts at `start`, if it is the key of an entry: it
-- stands on one line and is not too long.
def key? (flow : Bool) (start : Cursor) (s : Scalar) : Option Cursor :=
  if s.crossed then none
  else do
    let behind ← s.after.colon? flow
    let key := start.rest.take (behind.column - 1 - start.column)
    if (String.ofList key).utf8ByteSize ≤ longestKey then return behind else none

mutual

def readFlow : Nat → Nat → Cursor → Option (Yaml × Cursor)
  | 0, _, _ => none
  | fuel + 1, least, cur =>
    match cur.rest with
    | '[' :: rest => readFlowItems fuel least [] ⟨rest, cur.column + 1, false⟩
    | '\x7b' :: rest => readFlowEntries fuel least [] ⟨rest, cur.column + 1, false⟩
    | _ => (Scalar.read? true least cur).map fun s => (s.node, s.after)

def readFlowValue : Nat → Nat → Cursor → Option (Yaml × Cursor)
  | 0, _, _ => none
  | fuel + 1, least, cur =>
    let cur := cur.skip true
    if cur.ended then none
    else if endsFlowValue cur then some (blank, cur)
    else readFlow fuel least cur

def readFlowItems : Nat → Nat → List Yaml → Cursor → Option (Yaml × Cursor)
  | 0, _, _, _ => none
  | fuel + 1, least, acc, cur =>
    let cur := cur.skip true
    if cur.ended then none
    else
      match cur.rest with
      | ']' :: rest => some (.sequence acc.reverse, ⟨rest, cur.column + 1, false⟩)
      | _ => do
        let (item, after) ← readFlowItem fuel least cur
        let after := after.skip true
        match after.rest with
        | ',' :: rest => readFlowItems fuel least (item :: acc) ⟨rest, after.column + 1, false⟩
        | ']' :: rest => some (.sequence (item :: acc).reverse, ⟨rest, after.column + 1, false⟩)
        | _ => none

def readFlowItem : Nat → Nat → Cursor → Option (Yaml × Cursor)
  | 0, _, _ => none
  | fuel + 1, least, cur =>
    match Scalar.read? true least cur with
    | none => readFlow fuel least cur
    | some s =>
      match key? true cur s with
      | none => some (s.node, s.after)
      | some behind => do
        let (value, after) ← readFlowValue fuel least behind
        return (.mapping [(s.name, value)], after)

def readFlowEntries : Nat → Nat → List (String × Yaml) → Cursor → Option (Yaml × Cursor)
  | 0, _, _, _ => none
  | fuel + 1, least, acc, cur =>
    let cur := cur.skip true
    if cur.ended then none
    else
      match cur.rest with
      | '\x7d' :: rest => some (.mapping acc.reverse, ⟨rest, cur.column + 1, false⟩)
      | _ => do
        let s ← Scalar.read? true least cur
        let (value, after) ← match key? true cur s with
          | none => some (blank, s.after)
          | some behind => readFlowValue fuel least behind
        let after := after.skip true
        match after.rest with
        | ',' :: rest =>
          readFlowEntries fuel least ((s.name, value) :: acc) ⟨rest, after.column + 1, false⟩
        | '\x7d' :: rest =>
          some (.mapping ((s.name, value) :: acc).reverse, ⟨rest, after.column + 1, false⟩)
        | _ => none

end

mutual

def readNode : Nat → Nat → Cursor → Option (Yaml × Cursor)
  | 0, _, _ => none
  | fuel + 1, least, cur =>
    if startsItem cur then
      if cur.fresh then readItems fuel cur.column false [] cur else none
    else
      match Scalar.read? false least cur with
      | none => readFlow fuel least cur
      | some s =>
        match if cur.fresh then key? false cur s else none with
        | none => some (s.node, s.after)
        | some behind => readEntries fuel cur.column [] s.name behind

-- The items of a sequence whose dashes stand in `column`. The sequence that is the value of an
-- entry may stand in the column of the entry's key.
def readItems : Nat → Nat → Bool → List Yaml → Cursor → Option (Yaml × Cursor)
  | 0, _, _, _, _ => none
  | fuel + 1, column, aligned, acc, cur => do
    let start := Cursor.skip false ⟨cur.rest.drop 1, cur.column + 1, true⟩
    let (item, after) ←
      if start.ended || start.column ≤ column then some (blank, start)
      else readNode fuel (column + 1) start
    let after := after.skip false
    if after.ended || after.column < column then some (.sequence (item :: acc).reverse, after)
    else if column < after.column then none
    else if startsItem after then readItems fuel column aligned (item :: acc) after
    else if aligned then some (.sequence (item :: acc).reverse, after)
    else none

def readEntries : Nat → Nat → List (String × Yaml) → String → Cursor → Option (Yaml × Cursor)
  | 0, _, _, _, _ => none
  | fuel + 1, column, acc, key, cur => do
    let start := cur.skip false
    let (value, after) ←
      if start.ended || start.column < column then some (blank, start)
      else if column < start.column then readNode fuel (column + 1) start
      else if startsItem start then readItems fuel column true [] start
      else some (blank, start)
    let after := after.skip false
    let acc := (key, value) :: acc
    if after.ended || after.column < column then some (.mapping acc.reverse, after)
    else if column < after.column then none
    else
      let s ← Scalar.read? false (column + 1) after
      let behind ← key? false after s
      readEntries fuel column acc s.name behind

end

def uniformBreaks : List Char → List Char
  | '\r' :: '\n' :: cs => '\n' :: uniformBreaks cs
  | c :: cs => (if c = '\r' || c = Char.ofNat 0x85 then '\n' else c) :: uniformBreaks cs
  | [] => []

def isAllowed (c : Char) : Bool :=
  let n := c.toNat
  n = 0x09 || n = 0x0A || n = 0x0D || n = 0x85 || (0x20 ≤ n && n ≤ 0x7E) ||
    (0xA0 ≤ n && n != 0xFFFE && n != 0xFFFF)

def withoutMark : List Char → List Char
  | c :: cs => if c.toNat = 0xFEFF then cs else c :: cs
  | [] => []

def read (text : String) : Option Yaml := do
  let cs := withoutMark text.toList
  if !cs.all isAllowed then none
  let cs := uniformBreaks cs
  let start := Cursor.skip false ⟨cs, 0, true⟩
  let start :=
    if start.atMarker Cursor.startMarks then Cursor.skip false ⟨start.rest.drop 3, 3, false⟩
    else start
  if start.ended then none
  let (node, after) ← readNode (4 * cs.length + 4) 0 start
  let after := after.skip false
  let after :=
    if after.atMarker Cursor.endMarks then Cursor.skip false ⟨after.rest.drop 3, 3, false⟩
    else after
  if after.rest.isEmpty then some node else none

end RecordSync.Yaml
