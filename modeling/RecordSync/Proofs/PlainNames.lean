import RecordSync.Proofs.Declarations

set_option autoImplicit false

namespace RecordSync

namespace Path

structure Plain (name : String) : Prop where
  nonempty : name ≠ ""
  undotted : '.' ∉ name.toList

variable {name : String}

theorem segments?_of_plain (plain : Plain name) : segments? name = some [name] := by
  simp [segments?, Text.cut_of_not_mem plain.undotted, plain.nonempty]

theorem getIn_of_plain (plain : Plain name) (r : Record) : getIn r name = Keyed.get? name r := by
  unfold getIn get
  rw [segments?_of_plain plain]
  show ([Cursor.inside r name].findSome? (Cursor.find [])) = _
  simp [Cursor.find, Cursor.value?]

theorem setIn_of_plain (plain : Plain name) (r : Record) (v : Value) :
    setIn r name v = .ok (Keyed.insert name v r, Keyed.get? name r) := by
  have segments : segments name = .ok [name] := by
    rw [Path.segments, segments?_of_plain plain]
  have wrote :
      set (.object r) name v = .ok (.object (Keyed.insert name v r), Keyed.get? name r) := by
    unfold set
    rw [segments]
    show writeFrom v name name [] (write v name []) (.object r) = _
    cases found : Keyed.get? name r <;> simp [writeFrom, write, nest, found]
  rw [setIn, wrote]

theorem removeIn_of_plain (plain : Plain name) (r : Record) :
    (removeIn r name).1 = Keyed.erase name r := by
  have erased : remove? (.object r) name =
      (Keyed.get? name r).map fun old => (.object (Keyed.erase name r), old) := by
    unfold remove?
    rw [segments?_of_plain plain]
    rfl
  cases found : Keyed.get? name r with
  | none => simp [removeIn, remove, erased, found, Keyed.erase_of_get?_eq_none found]
  | some old => simp [removeIn, remove, erased, found]

end Path

def Mapper.Plain (m : Mapper) : Prop := ∀ name ∈ m.names, '.' ∉ name.toList

theorem Mapper.Plain.path {m : Mapper} (plain : m.Plain) (sound : m.Sound) {d : AttributeDefinition}
    (member : d ∈ m.definitions) : Path.Plain d.name :=
  ⟨(sound d member).name_ne, plain d.name (List.mem_map_of_mem member)⟩

end RecordSync
