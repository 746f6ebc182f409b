import Refactory.Json.Printer
import Refactory.Json.Reader

/-! Strings that are written as JSON are read back as they were.

Most characters are written by four hexadecimal digits of a UTF-16 code unit, those above the basic
plane by two units. The reader puts the two together again.
-/

set_option autoImplicit false

namespace Refactory.Json

/-! ## Code units -/

theorem hexValue?_digitChar : ∀ digit < 16, hexValue? (Nat.digitChar digit) = some digit := by
  decide

theorem hexPadded_four {unit : Nat} (small : unit < 0x10000) : Text.hexPadded 4 unit =
    [Nat.digitChar (unit / 0x1000), Nat.digitChar (unit / 0x100 % 16), Nat.digitChar (unit / 16 % 16),
      Nat.digitChar (unit % 16)] := by
  have zero : '0' = Nat.digitChar 0 := rfl
  unfold Text.hexPadded
  -- by the number of digits that the unit has
  by_cases one : unit < 16
  · have parts : unit / 0x1000 = 0 ∧ unit / 0x100 % 16 = 0 ∧ unit / 16 % 16 = 0 ∧ unit % 16 = unit := by
      omega
    rw [Nat.toDigits_of_lt_base one, parts.1, parts.2.1, parts.2.2.1, parts.2.2.2]
    rfl
  · rw [Nat.toDigits_of_base_le (by decide) (by omega)]
    by_cases two : unit / 16 < 16
    · have parts : unit / 0x1000 = 0 ∧ unit / 0x100 % 16 = 0 ∧ unit / 16 % 16 = unit / 16 := by omega
      rw [Nat.toDigits_of_lt_base two, parts.1, parts.2.1, parts.2.2]
      rfl
    · rw [Nat.toDigits_of_base_le (by decide) (by omega)]
      by_cases three : unit / 16 / 16 < 16
      · have parts : unit / 0x1000 = 0 ∧ unit / 0x100 % 16 = unit / 16 / 16 := by omega
        rw [Nat.toDigits_of_lt_base three, parts.1, parts.2]
        rfl
      · have parts : unit / 16 / 16 / 16 = unit / 0x1000 ∧ unit / 16 / 16 % 16 = unit / 0x100 % 16 := by
          omega
        rw [Nat.toDigits_of_base_le (by decide) (by omega), Nat.toDigits_of_lt_base (by omega), parts.1,
          parts.2]
        rfl

theorem length_hexPadded_four {unit : Nat} (small : unit < 0x10000) :
    (Text.hexPadded 4 unit).length = 4 := by
  rw [hexPadded_four small]
  rfl

theorem codeUnit?_hexPadded {unit : Nat} (small : unit < 0x10000) {rest : List Char} (more : rest ≠ []) :
    codeUnit? (Text.hexPadded 4 unit ++ rest) = some unit := by
  obtain ⟨next, later, rfl⟩ := List.exists_cons_of_ne_nil more
  have whole : ((unit / 0x1000 * 16 + unit / 0x100 % 16) * 16 + unit / 16 % 16) * 16 + unit % 16 = unit := by
    omega
  rw [hexPadded_four small]
  simp only [List.cons_append, List.nil_append, codeUnit?]
  rw [hexValue?_digitChar _ (by omega), hexValue?_digitChar _ (by omega), hexValue?_digitChar _ (by omega),
    hexValue?_digitChar _ (by omega)]
  exact congrArg some whole

theorem codeEscaped_unit {unit : Nat} (small : unit < 0x10000) (high : isHighSurrogate unit = false)
    (low : isLowSurrogate unit = false) {rest : List Char} (more : rest ≠ []) :
    codeEscaped (Text.hexPadded 4 unit ++ rest) = .ok (Char.ofNat unit, 4) := by
  have char : unitChar unit = Char.ofNat unit := by simp [unitChar, high, low]
  unfold codeEscaped
  rw [codeUnit?_hexPadded small more]
  simp only [high, char]

/-- Two surrogates stand for one character. -/
theorem codeEscaped_pair {high low : Nat} (isHigh : isHighSurrogate high = true)
    (isLow : isLowSurrogate low = true) (small : high < 0x10000) (smaller : low < 0x10000)
    {rest : List Char} (more : rest ≠ []) :
    codeEscaped (Text.hexPadded 4 high ++ (unitEscape low ++ rest)) =
      .ok (Char.ofNat (0x10000 + (high - 0xD800) * 0x400 + (low - 0xDC00)), 10) := by
  have long : ¬ (Text.hexPadded 4 low ++ rest).length < 5 := by
    have some_char := List.length_pos_iff.mpr more
    rw [List.length_append, length_hexPadded_four smaller]
    omega
  unfold codeEscaped unitEscape
  rw [codeUnit?_hexPadded small (by simp), List.drop_left' (length_hexPadded_four small)]
  simp only [isHigh, List.cons_append]
  rw [if_neg long, codeUnit?_hexPadded smaller more]
  simp only [isLow, if_true]

theorem codeEscaped_surrogates {code : Nat} (above : 0x10000 ≤ code) (valid : code < 0x110000)
    {rest : List Char} (more : rest ≠ []) :
    codeEscaped (Text.hexPadded 4 (surrogates code).1 ++ (unitEscape (surrogates code).2 ++ rest)) =
      .ok (Char.ofNat code, 10) := by
  have high : 0xD800 ≤ (surrogates code).1 ∧ (surrogates code).1 ≤ 0xDBFF := by
    simp only [surrogates]
    omega
  have low : 0xDC00 ≤ (surrogates code).2 ∧ (surrogates code).2 ≤ 0xDFFF := by
    simp only [surrogates]
    omega
  have whole : 0x10000 + ((surrogates code).1 - 0xD800) * 0x400 + ((surrogates code).2 - 0xDC00) = code := by
    simp only [surrogates]
    omega
  have isHigh : isHighSurrogate (surrogates code).1 = true := by simp [isHighSurrogate, high]
  have isLow : isLowSurrogate (surrogates code).2 = true := by simp [isLowSurrogate, low]
  have read := codeEscaped_pair isHigh isLow (by omega) (by omega) more
  rwa [whole] at read

/-! ## Characters -/

theorem stringChars_skip (start first rest : List Char) :
    stringChars start first.length (first ++ rest) = stringChars start 0 rest := by
  induction first with
  | nil => rfl
  | cons c first ih =>
    rw [List.length_cons, List.cons_append]
    exact ih

def continued (c : Char) (outcome : Except Stop (List Char × List Char)) :
    Except Stop (List Char × List Char) :=
  outcome.map fun (others, rest) => (c :: others, rest)

theorem stringChars_plain {c : Char} (start rest : List Char) (noQuote : c ≠ '"') (noSlash : c ≠ '\\')
    (shown : ¬ c.toNat < 0x20) :
    stringChars start 0 (c :: rest) = continued c (stringChars start 0 rest) := by
  rw [stringChars, if_neg noQuote, if_neg noSlash, if_neg shown]
  cases stringChars start 0 rest <;> rfl

/-- An escape whose characters are read as one. -/
theorem stringChars_escape {c : Char} (start escape rest : List Char)
    (read : escapeIn start (escape ++ rest) = .ok (c, escape.length)) :
    stringChars start 0 ('\\' :: (escape ++ rest)) = continued c (stringChars start 0 rest) := by
  rw [stringChars, if_neg (by decide), if_pos rfl, read]
  change (stringChars start escape.length (escape ++ rest) >>= fun found => _) = _
  rw [stringChars_skip]
  cases stringChars start 0 rest <;> rfl

theorem escapeIn_code {digits : List Char} {c : Char} {count : Nat} (start : List Char)
    (read : codeEscaped digits = .ok (c, count)) : escapeIn start ('u' :: digits) = .ok (c, count + 1) := by
  rw [escapeIn, read]
  rfl

theorem stringChars_unit {unit : Nat} {c : Char} (small : unit < 0x10000) (start : List Char)
    {rest : List Char} (read : codeEscaped (Text.hexPadded 4 unit ++ rest) = .ok (c, 4)) :
    stringChars start 0 (unitEscape unit ++ rest) = continued c (stringChars start 0 rest) := by
  refine stringChars_escape start ('u' :: Text.hexPadded 4 unit) rest ?_
  rw [List.length_cons, length_hexPadded_four small]
  exact escapeIn_code start read

theorem stringChars_pair {high low : Nat} {c : Char} (small : high < 0x10000) (smaller : low < 0x10000)
    (start : List Char) {rest : List Char}
    (read : codeEscaped (Text.hexPadded 4 high ++ (unitEscape low ++ rest)) = .ok (c, 10)) :
    stringChars start 0 (unitEscape high ++ unitEscape low ++ rest) =
      continued c (stringChars start 0 rest) := by
  refine stringChars_escape start ('u' :: (Text.hexPadded 4 high ++ unitEscape low)) rest ?_
  have count : ('u' :: (Text.hexPadded 4 high ++ unitEscape low)).length = 10 + 1 := by
    simp only [unitEscape, List.length_cons, List.length_append, length_hexPadded_four small,
      length_hexPadded_four smaller]
  rw [count, List.cons_append, List.append_assoc]
  exact escapeIn_code start read

theorem stringChars_codeEscape (c : Char) (start : List Char) {rest : List Char} (more : rest ≠ []) :
    stringChars start 0 (codeEscape c.toNat ++ rest) = continued c (stringChars start 0 rest) := by
  have valid : c.toNat < 0xD800 ∨ 0xDFFF < c.toNat ∧ c.toNat < 0x110000 := c.valid
  have same : Char.ofNat c.toNat = c := Char.ofNat_toNat c
  unfold codeEscape
  split
  · next small =>
    have read := codeEscaped_unit small (by simp [isHighSurrogate]; omega) (by simp [isLowSurrogate]; omega) more
    rw [same] at read
    exact stringChars_unit small start read
  · next large =>
    have read := codeEscaped_surrogates (by omega) (by omega : c.toNat < 0x110000) more
    rw [same] at read
    have bounds : (surrogates c.toNat).1 < 0x10000 ∧ (surrogates c.toNat).2 < 0x10000 := by
      simp only [surrogates]
      omega
    exact stringChars_pair bounds.1 bounds.2 start read

theorem stringChars_escaped (c : Char) (start : List Char) {rest : List Char} (more : rest ≠ []) :
    stringChars start 0 (escaped c ++ rest) = continued c (stringChars start 0 rest) := by
  -- the escapes by one letter
  have letter (mark : Char) (read : escapeIn start (mark :: rest) = .ok (c, 1)) :
      stringChars start 0 (['\\', mark] ++ rest) = continued c (stringChars start 0 rest) :=
    stringChars_escape start [mark] rest read
  unfold escaped
  split
  · next same => subst same; exact letter '"' rfl
  · split
    · next same => subst same; exact letter '\\' rfl
    · split
      · next same => subst same; exact letter 'n' rfl
      · split
        · next same => subst same; exact letter 'r' rfl
        · split
          · next same => subst same; exact letter 't' rfl
          · split
            · next same => subst same; exact letter 'f' rfl
            · split
              · next same => subst same; exact letter 'b' rfl
              · next noQuote noSlash _ _ _ _ _ =>
                split
                · next shown =>
                  rw [Bool.and_eq_true, decide_eq_true_iff, decide_eq_true_iff] at shown
                  exact stringChars_plain start rest noQuote noSlash (by omega)
                · exact stringChars_codeEscape c start more

/-! ## Strings -/

theorem stringChars_flatMap (chars start rest : List Char) :
    stringChars start 0 (chars.flatMap escaped ++ '"' :: rest) = .ok (chars, rest) := by
  induction chars with
  | nil => rfl
  | cons c chars ih =>
    rw [List.flatMap_cons, List.append_assoc, stringChars_escaped c start (by simp), ih]
    rfl

/-- A string that is written is read back, and what follows it is left. -/
theorem readString_string (text : String) (rest : List Char) :
    readString (text.toList.flatMap escaped ++ '"' :: rest) = .ok (text, rest) := by
  unfold readString
  rw [stringChars_flatMap]
  change Except.ok (String.ofList text.toList, rest) = _
  rw [String.ofList_toList]

end Refactory.Json
