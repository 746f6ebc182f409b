import Refactory.Text.Utf8

/-! Bytes that come from a text can be read back, and give the text again. -/

set_option autoImplicit false

namespace Refactory.Text.Utf8

/-! ## One byte -/

section Byte

variable {byte : UInt8} {rest : List UInt8} {read : List Char} {position : Nat}

theorem decodeFrom_between : decodeFrom position ⟨0, [], []⟩ (byte :: rest) read =
    match continuations? byte.toNat with
    | none => .error ⟨.invalidStart, [byte], position⟩
    | some [] => decodeFrom (position + 1) ⟨0, [], []⟩ rest (Char.ofNat byte.toNat :: read)
    | some awaited =>
        decodeFrom (position + 1) ⟨leadBits byte.toNat awaited.length, [byte], awaited⟩ rest read := rfl

theorem decodeFrom_single (plain : continuations? byte.toNat = some []) :
    decodeFrom position ⟨0, [], []⟩ (byte :: rest) read =
      decodeFrom (position + 1) ⟨0, [], []⟩ rest (Char.ofNat byte.toNat :: read) := by
  rw [decodeFrom_between, plain]

theorem decodeFrom_lead {next : Nat × Nat} {later : List (Nat × Nat)}
    (longer : continuations? byte.toNat = some (next :: later)) :
    decodeFrom position ⟨0, [], []⟩ (byte :: rest) read =
      decodeFrom (position + 1) ⟨leadBits byte.toNat (next :: later).length, [byte], next :: later⟩
        rest read := by
  rw [decodeFrom_between, longer]

variable {code low high : Nat} {bytes : List UInt8}

theorem decodeFrom_within {later : List (Nat × Nat)} :
    decodeFrom position ⟨code, bytes, (low, high) :: later⟩ (byte :: rest) read =
      if low ≤ byte.toNat ∧ byte.toNat ≤ high then
        match later with
        | [] => decodeFrom (position + 1) ⟨0, [], []⟩ rest
            (Char.ofNat (code * 64 + byte.toNat % 64) :: read)
        | _ :: _ => decodeFrom (position + 1) ⟨code * 64 + byte.toNat % 64, byte :: bytes, later⟩ rest read
      else .error ⟨.invalidContinuation, bytes.reverse, position - bytes.length⟩ := rfl

theorem decodeFrom_next {next : Nat × Nat} {later : List (Nat × Nat)}
    (within : low ≤ byte.toNat ∧ byte.toNat ≤ high) :
    decodeFrom position ⟨code, bytes, (low, high) :: next :: later⟩ (byte :: rest) read =
      decodeFrom (position + 1) ⟨code * 64 + byte.toNat % 64, byte :: bytes, next :: later⟩ rest read := by
  rw [decodeFrom_within, if_pos within]

theorem decodeFrom_last (within : low ≤ byte.toNat ∧ byte.toNat ≤ high) :
    decodeFrom position ⟨code, bytes, [(low, high)]⟩ (byte :: rest) read =
      decodeFrom (position + 1) ⟨0, [], []⟩ rest (Char.ofNat (code * 64 + byte.toNat % 64) :: read) := by
  rw [decodeFrom_within, if_pos within]

end Byte

/-! ## One character -/

theorem toNat_ofNat {n : Nat} (small : n < 256) : (UInt8.ofNat n).toNat = n := by
  rw [UInt8.toNat_ofNat', Nat.mod_eq_of_lt small]

theorem toNat_bounds (c : Char) : c.toNat < 0xD800 ∨ 0xDFFF < c.toNat ∧ c.toNat < 0x110000 := c.valid

section Character

variable {v : Nat} (rest : List UInt8) (read : List Char) (position : Nat)

theorem decodeFrom_one (least : v ≤ 127) :
    decodeFrom position ⟨0, [], []⟩ (UInt8.ofNat v :: rest) read =
      decodeFrom (position + 1) ⟨0, [], []⟩ rest (Char.ofNat v :: read) := by
  have byte : (UInt8.ofNat v).toNat = v := toNat_ofNat (by omega)
  have lead : continuations? (UInt8.ofNat v).toNat = some [] := by
    rw [byte, continuations?, if_pos (by omega)]
  rw [decodeFrom_single lead, byte]

theorem decodeFrom_two (above : 127 < v) (most : v ≤ 2047) :
    decodeFrom position ⟨0, [], []⟩
        (UInt8.ofNat (v / 64 % 32 + 192) :: UInt8.ofNat (v % 64 + 128) :: rest) read =
      decodeFrom (position + 2) ⟨0, [], []⟩ rest (Char.ofNat v :: read) := by
  have first : (UInt8.ofNat (v / 64 % 32 + 192)).toNat = v / 64 % 32 + 192 := toNat_ofNat (by omega)
  have second : (UInt8.ofNat (v % 64 + 128)).toNat = v % 64 + 128 := toNat_ofNat (by omega)
  have lead : continuations? (UInt8.ofNat (v / 64 % 32 + 192)).toNat = some [(0x80, 0xBF)] := by
    rw [first, continuations?, if_neg (by omega), if_neg (by omega), if_pos (by omega)]
  have whole : leadBits (v / 64 % 32 + 192) 1 * 64 + (v % 64 + 128) % 64 = v := by
    simp only [leadBits]
    omega
  rw [decodeFrom_lead lead, decodeFrom_last (by omega), first, second]
  simp only [List.length_singleton, whole]

theorem decodeFrom_three (above : 2047 < v) (most : v ≤ 65535) (valid : v < 0xD800 ∨ 0xDFFF < v) :
    decodeFrom position ⟨0, [], []⟩
        (UInt8.ofNat (v / 4096 % 16 + 224) :: UInt8.ofNat (v / 64 % 64 + 128) ::
          UInt8.ofNat (v % 64 + 128) :: rest) read =
      decodeFrom (position + 3) ⟨0, [], []⟩ rest (Char.ofNat v :: read) := by
  have first : (UInt8.ofNat (v / 4096 % 16 + 224)).toNat = v / 4096 % 16 + 224 := toNat_ofNat (by omega)
  have second : (UInt8.ofNat (v / 64 % 64 + 128)).toNat = v / 64 % 64 + 128 := toNat_ofNat (by omega)
  have third : (UInt8.ofNat (v % 64 + 128)).toNat = v % 64 + 128 := toNat_ofNat (by omega)
  -- the second byte has a smaller range after two of the first bytes
  obtain ⟨low, high, lead, within⟩ : ∃ low high,
      continuations? (UInt8.ofNat (v / 4096 % 16 + 224)).toNat = some [(low, high), (0x80, 0xBF)] ∧
        low ≤ v / 64 % 64 + 128 ∧ v / 64 % 64 + 128 ≤ high := by
    rw [first, continuations?, if_neg (by omega), if_neg (by omega), if_neg (by omega), if_pos (by omega)]
    by_cases least : v / 4096 % 16 + 224 = 0xE0
    · exact ⟨0xA0, 0xBF, by rw [if_pos least], by omega⟩
    · by_cases surrogate : v / 4096 % 16 + 224 = 0xED
      · exact ⟨0x80, 0x9F, by rw [if_neg least, if_pos surrogate], by omega⟩
      · exact ⟨0x80, 0xBF, by rw [if_neg least, if_neg surrogate], by omega⟩
  have whole : (leadBits (v / 4096 % 16 + 224) 2 * 64 + (v / 64 % 64 + 128) % 64) * 64 +
      (v % 64 + 128) % 64 = v := by
    simp only [leadBits]
    omega
  rw [decodeFrom_lead lead, decodeFrom_next (by rwa [second]), decodeFrom_last (by omega), first,
    second, third]
  simp only [List.length_cons, List.length_nil, Nat.zero_add, Nat.reduceAdd, whole]

theorem decodeFrom_four (above : 65535 < v) (valid : v < 0x110000) :
    decodeFrom position ⟨0, [], []⟩
        (UInt8.ofNat (v / 262144 % 8 + 240) :: UInt8.ofNat (v / 4096 % 64 + 128) ::
          UInt8.ofNat (v / 64 % 64 + 128) :: UInt8.ofNat (v % 64 + 128) :: rest) read =
      decodeFrom (position + 4) ⟨0, [], []⟩ rest (Char.ofNat v :: read) := by
  have first : (UInt8.ofNat (v / 262144 % 8 + 240)).toNat = v / 262144 % 8 + 240 := toNat_ofNat (by omega)
  have second : (UInt8.ofNat (v / 4096 % 64 + 128)).toNat = v / 4096 % 64 + 128 := toNat_ofNat (by omega)
  have third : (UInt8.ofNat (v / 64 % 64 + 128)).toNat = v / 64 % 64 + 128 := toNat_ofNat (by omega)
  have fourth : (UInt8.ofNat (v % 64 + 128)).toNat = v % 64 + 128 := toNat_ofNat (by omega)
  obtain ⟨low, high, lead, within⟩ : ∃ low high,
      continuations? (UInt8.ofNat (v / 262144 % 8 + 240)).toNat =
          some [(low, high), (0x80, 0xBF), (0x80, 0xBF)] ∧
        low ≤ v / 4096 % 64 + 128 ∧ v / 4096 % 64 + 128 ≤ high := by
    rw [first, continuations?, if_neg (by omega), if_neg (by omega), if_neg (by omega),
      if_neg (by omega), if_pos (by omega)]
    by_cases least : v / 262144 % 8 + 240 = 0xF0
    · exact ⟨0x90, 0xBF, by rw [if_pos least], by omega⟩
    · by_cases greatest : v / 262144 % 8 + 240 = 0xF4
      · exact ⟨0x80, 0x8F, by rw [if_neg least, if_pos greatest], by omega⟩
      · exact ⟨0x80, 0xBF, by rw [if_neg least, if_neg greatest], by omega⟩
  have whole : ((leadBits (v / 262144 % 8 + 240) 3 * 64 + (v / 4096 % 64 + 128) % 64) * 64 +
      (v / 64 % 64 + 128) % 64) * 64 + (v % 64 + 128) % 64 = v := by
    simp only [leadBits]
    omega
  rw [decodeFrom_lead lead, decodeFrom_next (by rwa [second]), decodeFrom_next (by omega),
    decodeFrom_last (by omega), first, second, third, fourth]
  simp only [List.length_cons, List.length_nil, Nat.zero_add, Nat.reduceAdd, whole]

end Character

theorem decodeFrom_char (c : Char) (rest : List UInt8) (read : List Char) (position : Nat) :
    ∃ after, decodeFrom position ⟨0, [], []⟩ (String.utf8EncodeChar c ++ rest) read =
      decodeFrom after ⟨0, [], []⟩ rest (c :: read) := by
  have bounds := toNat_bounds c
  have spelled : String.utf8EncodeChar c =
      if c.toNat ≤ 127 then [UInt8.ofNat c.toNat]
      else if c.toNat ≤ 2047 then [UInt8.ofNat (c.toNat / 64 % 32 + 192), UInt8.ofNat (c.toNat % 64 + 128)]
      else if c.toNat ≤ 65535 then
        [UInt8.ofNat (c.toNat / 4096 % 16 + 224), UInt8.ofNat (c.toNat / 64 % 64 + 128),
          UInt8.ofNat (c.toNat % 64 + 128)]
      else [UInt8.ofNat (c.toNat / 262144 % 8 + 240), UInt8.ofNat (c.toNat / 4096 % 64 + 128),
        UInt8.ofNat (c.toNat / 64 % 64 + 128), UInt8.ofNat (c.toNat % 64 + 128)] := rfl
  have same : Char.ofNat c.toNat = c := Char.ofNat_toNat c
  rw [spelled]
  split
  · next least => exact ⟨_, (decodeFrom_one rest read position least).trans (by rw [same])⟩
  · split
    · next above most =>
      exact ⟨_, (decodeFrom_two rest read position (by omega) most).trans (by rw [same])⟩
    · split
      · next above most =>
        exact ⟨_, (decodeFrom_three rest read position (by omega) most (by omega)).trans (by rw [same])⟩
      · exact ⟨_, (decodeFrom_four rest read position (by omega) (by omega)).trans (by rw [same])⟩

/-! ## Texts -/

theorem decodeFrom_encode (chars read : List Char) (position : Nat) :
    decodeFrom position ⟨0, [], []⟩ (chars.flatMap String.utf8EncodeChar) read =
      .ok (read.reverse ++ chars) := by
  induction chars generalizing read position with
  | nil => exact congrArg Except.ok (List.append_nil _).symm
  | cons c chars ih =>
    obtain ⟨after, step⟩ := decodeFrom_char c (chars.flatMap String.utf8EncodeChar) read position
    rw [List.flatMap_cons, step, ih]
    simp

/-- What is written as a text is read as that text. -/
theorem decode_encode (text : String) : decode (encode text) = .ok text := by
  have read := decodeFrom_encode text.toList [] 0
  rw [List.reverse_nil, List.nil_append] at read
  unfold decode encode
  rw [read]
  exact congrArg Except.ok String.ofList_toList

end Refactory.Text.Utf8
