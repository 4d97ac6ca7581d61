import RecordSync.Document.Binary

set_option autoImplicit false

namespace RecordSync

namespace Base64

theorem value?_symbol : ∀ n < 64, value? (symbol n) = some n := by decide

example : (List.range 64).map symbol =
    "ABCDEFGHIJKLMNOPQRSTUVWXYZabcdefghijklmnopqrstuvwxyz0123456789+/".toList := by
  decide

theorem symbol_ne_padding : ∀ n < 64, symbol n ≠ '=' := by decide

section Decode

variable {w x y z : Nat} {rest : List Char} {bytes : List UInt8}

theorem decode_one (wLow : w < 64) (xLow : x < 64) (unused : x % 16 = 0) :
    decode [symbol w, symbol x, '=', '='] = some [UInt8.ofNat (w * 4 + x / 16)] := by
  rw [decode]
  simp [value?_symbol, wLow, xLow, unused]

theorem decode_two (wLow : w < 64) (xLow : x < 64) (yLow : y < 64) (unused : y % 4 = 0) :
    decode [symbol w, symbol x, symbol y, '='] =
      some [UInt8.ofNat (w * 4 + x / 16), UInt8.ofNat (x % 16 * 16 + y / 4)] := by
  rw [decode]
  · simp [value?_symbol, wLow, xLow, yLow, unused]
  · exact symbol_ne_padding y yLow

theorem decode_three (wLow : w < 64) (xLow : x < 64) (yLow : y < 64) (zLow : z < 64)
    (decoded : decode rest = some bytes) :
    decode (symbol w :: symbol x :: symbol y :: symbol z :: rest) =
      some (UInt8.ofNat (w * 4 + x / 16) :: UInt8.ofNat (x % 16 * 16 + y / 4) ::
        UInt8.ofNat (y % 4 * 64 + z) :: bytes) := by
  have unpadded := symbol_ne_padding z zLow
  rw [decode]
  · simp [value?_symbol, wLow, xLow, yLow, zLow, decoded]
  · simp [unpadded]
  · simp [unpadded]

end Decode

theorem ofNat_eq {n : Nat} {a : UInt8} (same : n = a.toNat) : UInt8.ofNat n = a := by
  rw [same, UInt8.ofNat_toNat]

theorem decode_encode (bytes : List UInt8) : decode (encode bytes) = some bytes := by
  induction bytes using encode.induct with
  | case1 => rfl
  | case2 a =>
    have aLow := a.toNat_lt
    rw [encode, decode_one (by omega) (by omega) (by omega), ofNat_eq (a := a) (by omega)]
  | case3 a b =>
    have aLow := a.toNat_lt
    have bLow := b.toNat_lt
    rw [encode, decode_two (by omega) (by omega) (by omega) (by omega),
      ofNat_eq (a := a) (by omega), ofNat_eq (a := b) (by omega)]
  | case4 a b c rest _ _ _ _ ih =>
    have aLow := a.toNat_lt
    have bLow := b.toNat_lt
    have cLow := c.toNat_lt
    rw [encode, decode_three (by omega) (by omega) (by omega) (by omega) ih,
      ofNat_eq (a := a) (by omega), ofNat_eq (a := b) (by omega), ofNat_eq (a := c) (by omega)]

theorem symbol_of_value?_low :
    ∀ code < 123, ∀ n ∈ value? (Char.ofNat code), n < 64 ∧ Char.ofNat code = symbol n := by
  decide

theorem value?_eq_none_of_high {c : Char} (high : 123 ≤ c.toNat) : value? c = none := by
  have above (last : Char) (bound : last.toNat < 123) : ¬c ≤ last := fun within =>
    Nat.not_le.2 bound (Nat.le_trans high within)
  have other (d : Char) (bound : d.toNat < 123) : c ≠ d := fun same =>
    above d bound (same ▸ Char.le_refl c)
  simp [value?, above 'Z' (by decide), above 'z' (by decide), above '9' (by decide),
    other '+' (by decide), other '/' (by decide)]

theorem eq_symbol_of_value? {c : Char} {n : Nat} (read : value? c = some n) :
    n < 64 ∧ c = symbol n := by
  have low : c.toNat < 123 := Nat.not_le.1 fun high => by
    simp [value?_eq_none_of_high high] at read
  rw [← Char.ofNat_toNat c] at read ⊢
  exact symbol_of_value?_low c.toNat low n read

theorem value?_bind_eq_some_iff {β : Type} {c : Char} {next : Nat → Option β} {result : β} :
    (value? c).bind next = some result ↔ ∃ n < 64, c = symbol n ∧ next n = some result := by
  rw [Option.bind_eq_some_iff]
  constructor
  · rintro ⟨n, read, later⟩
    obtain ⟨low, rfl⟩ := eq_symbol_of_value? read
    exact ⟨n, low, rfl, later⟩
  · rintro ⟨n, low, rfl, later⟩
    exact ⟨n, value?_symbol n low, later⟩

section Encode

variable {w x y z : Nat}

theorem toNat_ofNat {n : Nat} (low : n < 256) : (UInt8.ofNat n).toNat = n :=
  UInt8.toNat_ofNat_of_lt' low

theorem encode_one (wLow : w < 64) (xLow : x < 64) (unused : x % 16 = 0) :
    encode [UInt8.ofNat (w * 4 + x / 16)] = [symbol w, symbol x, '=', '='] := by
  rw [encode, toNat_ofNat (by omega)]
  congr <;> omega

theorem encode_two (wLow : w < 64) (xLow : x < 64) (yLow : y < 64) (unused : y % 4 = 0) :
    encode [UInt8.ofNat (w * 4 + x / 16), UInt8.ofNat (x % 16 * 16 + y / 4)] =
      [symbol w, symbol x, symbol y, '='] := by
  rw [encode, toNat_ofNat (by omega), toNat_ofNat (by omega)]
  congr <;> omega

theorem encode_three (wLow : w < 64) (xLow : x < 64) (yLow : y < 64) (zLow : z < 64)
    (bytes : List UInt8) :
    encode (UInt8.ofNat (w * 4 + x / 16) :: UInt8.ofNat (x % 16 * 16 + y / 4) ::
        UInt8.ofNat (y % 4 * 64 + z) :: bytes) =
      symbol w :: symbol x :: symbol y :: symbol z :: encode bytes := by
  rw [encode, toNat_ofNat (by omega), toNat_ofNat (by omega), toNat_ofNat (by omega)]
  congr <;> omega

end Encode

variable {text : List Char} {bytes : List UInt8}

theorem eq_encode_of_decode (decoded : decode text = some bytes) : text = encode bytes := by
  -- By the rows of `decode`: each of them leaves no choice of padding or of unused bits.
  fun_induction decode text generalizing bytes with
  | case1 =>
    cases decoded
    rfl
  | case2 w x =>
    simp only [Option.bind_eq_bind, value?_bind_eq_some_iff, Option.ite_none_right_eq_some,
      Option.pure_def, Option.some.injEq] at decoded
    obtain ⟨w, wLow, rfl, x, xLow, rfl, unused, rfl⟩ := decoded
    exact (encode_one wLow xLow unused).symm
  | case3 w x y _ =>
    simp only [Option.bind_eq_bind, value?_bind_eq_some_iff, Option.ite_none_right_eq_some,
      Option.pure_def, Option.some.injEq] at decoded
    obtain ⟨w, wLow, rfl, x, xLow, rfl, y, yLow, rfl, unused, rfl⟩ := decoded
    exact (encode_two wLow xLow yLow unused).symm
  | case4 w x y z rest _ _ ih =>
    simp only [Option.bind_eq_bind, value?_bind_eq_some_iff] at decoded
    obtain ⟨w, wLow, rfl, x, xLow, rfl, y, yLow, rfl, z, zLow, rfl, decoded⟩ := decoded
    obtain ⟨later, read, same⟩ := Option.bind_eq_some_iff.1 decoded
    obtain rfl := Option.some.inj same
    rw [encode_three wLow xLow yLow zLow, ih read]
  | case5 => cases decoded

theorem decode_eq_some_iff : decode text = some bytes ↔ text = encode bytes :=
  ⟨eq_encode_of_decode, fun same => same ▸ decode_encode bytes⟩

end Base64

namespace Binary

variable {v : Value} {text : String} {bytes : List UInt8}

theorem text?_eq_some_iff : text? v = some text ↔ v = .object [(key, .string text)] := by
  constructor
  · intro found
    unfold text? at found
    split at found
    · split at found
      · rename_i same
        rw [same, Option.some.inj found]
      · cases found
    · cases found
  · rintro rfl
    rfl

theorem unwrap?_eq_some_iff : unwrap? v = some bytes ↔ v = wrap bytes := by
  rw [unwrap?, Option.bind_eq_some_iff]
  constructor
  · rintro ⟨text, found, decoded⟩
    rw [text?_eq_some_iff.1 found, wrap, ← Base64.decode_eq_some_iff.1 decoded,
      String.ofList_toList]
  · rintro rfl
    refine ⟨_, text?_eq_some_iff.2 rfl, ?_⟩
    rw [String.toList_ofList, Base64.decode_encode]

theorem unwrap?_wrap (bytes : List UInt8) : unwrap? (wrap bytes) = some bytes :=
  unwrap?_eq_some_iff.2 rfl

end Binary

end RecordSync
