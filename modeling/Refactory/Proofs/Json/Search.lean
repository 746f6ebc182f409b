import Refactory.Proofs.Json.Strings
import Refactory.Proofs.Text.Search

/-! Looking for a text in a JSON document that is set on lines.

What begins with no blank and holds none of the marks around items can only be found inside of an item. In a
written string a quote is the last character, or it follows a backslash.
-/

set_option autoImplicit false

namespace Refactory.Json

/-! ## Items on lines of their own -/

/-- The text begins with something else than a blank, and holds no mark that stands between items. -/
structure IsInner (part : List Char) : Prop where
  opens : ∃ head rest, part = head :: rest ∧ head ≠ ' '
  noComma : ',' ∉ part
  noBreak : '\n' ∉ part

namespace IsInner

variable {part : List Char} (inner : IsInner part)

include inner

/-- It does not begin in an indentation. -/
theorem infix_indented_iff (width : Nat) (text : List Char) :
    part <:+: List.replicate width ' ' ++ text ↔ part <:+: text := by
  obtain ⟨head, rest, rfl, visible⟩ := inner.opens
  exact Text.infix_append_of_not_mem (fun blank => visible (List.eq_of_mem_replicate blank)) rest text

theorem not_infix_singleton {bracket : Char} (free : bracket ∉ part) : ¬ part <:+: [bracket] := by
  obtain ⟨head, rest, rfl, _⟩ := inner.opens
  intro found
  have same : head = bracket := List.mem_singleton.mp (found.subset List.mem_cons_self)
  exact free (same ▸ List.mem_cons_self)

theorem infix_intercalate_iff (step level : Nat) (items : List (List Char)) :
    part <:+: List.intercalate (Layout.separator (.lines step) level) items ↔ ∃ item ∈ items, part <:+: item := by
  induction items with
  | nil =>
    obtain ⟨head, rest, rfl, _⟩ := inner.opens
    simp
  | cons first others ih =>
    cases others with
    | nil => simp
    | cons second others =>
      -- a comma ends the line of an item, and the next line is indented
      have parts : List.intercalate (Layout.separator (.lines step) level) (first :: second :: others) =
          first ++ ',' :: ([] ++ '\n' :: (List.replicate (step * level) ' ' ++
            List.intercalate (Layout.separator (.lines step) level) (second :: others))) := by
        rw [List.intercalate_cons_cons, List.append_assoc]
        rfl
      have none_empty : ¬ part <:+: [] := by
        obtain ⟨head, rest, rfl, _⟩ := inner.opens
        simp
      rw [parts, Text.infix_append_mark_iff _ _ inner.noComma, Text.infix_append_mark_iff _ _ inner.noBreak,
        inner.infix_indented_iff, ih, or_iff_right none_empty]
      simp

/-- In brackets it is found exactly if it is found in an item. -/
theorem infix_enclosed_iff {opening closing : Char} (unopened : opening ∉ part) (unclosed : closing ∉ part)
    (step level : Nat) (items : List (List Char)) :
    part <:+: enclosed (.lines step) level opening closing items ↔ ∃ item ∈ items, part <:+: item := by
  have outside {bracket : Char} (free : bracket ∉ part) := inner.not_infix_singleton free
  cases items with
  | nil =>
    have brackets : enclosed (.lines step) level opening closing [] = [] ++ opening :: [closing] := rfl
    rw [brackets, Text.infix_append_mark_iff _ _ unopened]
    obtain ⟨head, rest, rfl, _⟩ := inner.opens
    simpa using outside unclosed
  | cons first others =>
    have parts : enclosed (.lines step) level opening closing (first :: others) =
        [opening] ++ '\n' :: (List.replicate (step * (level + 1)) ' ' ++
          (List.intercalate (Layout.separator (.lines step) (level + 1)) (first :: others) ++
            '\n' :: (List.replicate (step * level) ' ' ++ [closing]))) := by
      simp [enclosed, Layout.break]
    rw [parts, Text.infix_append_mark_iff _ _ inner.noBreak, inner.infix_indented_iff,
      Text.infix_append_mark_iff _ _ inner.noBreak, inner.infix_indented_iff, inner.infix_intercalate_iff,
      or_iff_right (outside unopened), or_iff_left (outside unclosed)]

end IsInner

/-! ## Quotes in strings -/

theorem digitChar_ne_quote : ∀ digit < 16, Nat.digitChar digit ≠ '"' := by decide

theorem quote_not_mem_unitEscape {unit : Nat} (small : unit < 0x10000) : '"' ∉ unitEscape unit := by
  rw [unitEscape, hexPadded_four small]
  have digit {n : Nat} (bound : n < 16) : '"' ≠ Nat.digitChar n := (digitChar_ne_quote n bound).symm
  simp only [List.mem_cons, List.not_mem_nil, or_false, not_or]
  exact ⟨by decide, by decide, digit (by omega), digit (by omega), digit (by omega), digit (by omega)⟩

theorem quote_not_mem_codeEscape (c : Char) : '"' ∉ codeEscape c.toNat := by
  have valid : c.toNat < 0x110000 := by
    have bounds : c.toNat < 0xD800 ∨ 0xDFFF < c.toNat ∧ c.toNat < 0x110000 := c.valid
    omega
  unfold codeEscape
  split
  · next small => exact quote_not_mem_unitEscape small
  · next large =>
    rw [List.mem_append, not_or]
    constructor <;> refine quote_not_mem_unitEscape ?_ <;> simp only [surrogates] <;> omega

theorem codeEscape_opens (code : Nat) : ∃ more, codeEscape code = '\\' :: more := by
  unfold codeEscape
  split
  · exact ⟨_, rfl⟩
  · exact ⟨_, rfl⟩

/-- A character is written by a letter after a backslash, as it is, or by its code units. -/
theorem escaped_cases (c : Char) :
    (∃ letter, escaped c = ['\\', letter] ∧ (letter = '"' → c = '"')) ∨
      (escaped c = [c] ∧ c ≠ '"') ∨ escaped c = codeEscape c.toNat := by
  have byLetter (letter : Char) (other : letter ≠ '"') :
      ∃ found, ['\\', letter] = ['\\', found] ∧ (found = '"' → c = '"') :=
    ⟨letter, rfl, fun same => absurd same other⟩
  unfold escaped
  split
  · next same => exact .inl ⟨'"', rfl, fun _ => same⟩
  · next other =>
    repeat' split
    · exact .inl (byLetter '\\' (by decide))
    · exact .inl (byLetter 'n' (by decide))
    · exact .inl (byLetter 'r' (by decide))
    · exact .inl (byLetter 't' (by decide))
    · exact .inl (byLetter 'f' (by decide))
    · exact .inl (byLetter 'b' (by decide))
    · exact .inr (.inl ⟨rfl, other⟩)
    · exact .inr (.inr rfl)

theorem quote_not_mem_escaped {c : Char} (other : c ≠ '"') : '"' ∉ escaped c := by
  rcases escaped_cases c with ⟨letter, written, quote⟩ | ⟨written, _⟩ | written
  · rw [written, List.mem_cons, List.mem_singleton, not_or]
    exact ⟨by decide, fun same => other (quote same.symm)⟩
  · rw [written, List.mem_singleton]
    exact other.symm
  · rw [written]
    exact quote_not_mem_codeEscape c

theorem escaped_opens (c : Char) : ∃ first more, escaped c = first :: more ∧ first ≠ '"' := by
  rcases escaped_cases c with ⟨letter, written, _⟩ | ⟨written, other⟩ | written
  · exact ⟨'\\', [letter], written, by decide⟩
  · exact ⟨c, [], written, other⟩
  · obtain ⟨more, units⟩ := codeEscape_opens c.toNat
    exact ⟨'\\', more, written.trans units, by decide⟩

/-- Where a string goes on, it does not go on with a quote. -/
theorem not_quote_prefix (chars : List Char) (after : Char) :
    ¬ ['"', after] <+: chars.flatMap escaped ++ ['"'] := by
  cases chars with
  | nil => simp
  | cons c rest =>
    obtain ⟨first, more, written, other⟩ := escaped_opens c
    rw [List.flatMap_cons, written, List.cons_append, List.cons_append, List.cons_prefix_cons]
    exact fun begins => other begins.1.symm

section Quotes

variable {before : Char} (after : Char)

theorem not_infix_append_of_no_quote {first rest : List Char} (free : '"' ∉ first)
    (apart : ¬ ['"', after] <+: rest) (absent : ¬ [before, '"', after] <:+: rest) :
    ¬ [before, '"', after] <:+: first ++ rest := by
  induction first with
  | nil => exact absent
  | cons c others ih =>
    have later := List.not_mem_of_not_mem_cons free
    rw [List.cons_append, List.infix_cons_iff, List.cons_prefix_cons, not_or]
    refine ⟨fun begins => ?_, ih later⟩
    -- the quote is the next character, which is the first of the rest or no quote at all
    cases others with
    | nil => exact apart begins.2
    | cons d others =>
      rw [List.cons_append, List.cons_prefix_cons] at begins
      exact later (begins.2.1 ▸ List.mem_cons_self)

/-- Inside of a written string only a backslash stands before a quote. -/
theorem not_infix_string (text : String) (plain : before ≠ '\\') : ¬ [before, '"', after] <:+: string text := by
  have body (chars : List Char) : ¬ [before, '"', after] <:+: chars.flatMap escaped ++ ['"'] := by
    induction chars with
    | nil => exact fun found => absurd found.length_le (by simp)
    | cons c rest ih =>
      have apart := not_quote_prefix rest after
      rw [List.flatMap_cons, List.append_assoc]
      by_cases same : c = '"'
      · subst same
        have slash (tail : List Char) : ¬ [before, '"', after] <+: '\\' :: tail :=
          fun begins => plain (List.cons_prefix_cons.mp begins).1
        have quote : ¬ [before, '"', after] <+: '"' :: (rest.flatMap escaped ++ ['"']) :=
          fun begins => apart (List.cons_prefix_cons.mp begins).2
        change ¬ _ <:+: '\\' :: '"' :: (rest.flatMap escaped ++ ['"'])
        rw [List.infix_cons_iff, or_iff_right (slash _), List.infix_cons_iff, or_iff_right quote]
        exact ih
      · exact not_infix_append_of_no_quote after (quote_not_mem_escaped same) apart ih
  rw [string, List.infix_cons_iff, List.cons_prefix_cons, not_or]
  exact ⟨fun begins => not_quote_prefix _ after begins.2, body _⟩

end Quotes

end Refactory.Json
