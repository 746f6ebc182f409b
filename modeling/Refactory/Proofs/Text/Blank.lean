import Refactory.Proofs.Text.Search
import Refactory.Source.Token.Numeral
import Refactory.Text.Blank
import Refactory.Text.Identifier
import Refactory.Text.Printable

/-! Blanks around a text, and what blanks are not. -/

set_option autoImplicit false

namespace Refactory.Text

/-! ## Blanks as characters of a source text -/

section Classes

variable {c : Char}

theorem ne_of_isBlank {other : Char} (blank : isBlank c = true) (solid : isBlank other = false) :
    c ≠ other := by
  rintro rfl
  rw [blank] at solid
  cases solid

theorem isBlank_iff : isBlank c = true ↔
    9 ≤ c.toNat ∧ c.toNat ≤ 13 ∨ 28 ≤ c.toNat ∧ c.toNat ≤ 32 ∨ c.toNat = 0x85 ∨ c.toNat = 0xA0 ∨
      c.toNat = 0x1680 ∨ 0x2000 ≤ c.toNat ∧ c.toNat ≤ 0x200A ∨ c.toNat = 0x2028 ∨ c.toNat = 0x2029 ∨
      c.toNat = 0x202F ∨ c.toNat = 0x205F ∨ c.toNat = 0x3000 := by
  simp only [isBlank, Bool.or_eq_true, Bool.and_eq_true, decide_eq_true_eq, beq_iff_eq, or_assoc]

theorem isDigit_iff : c.isDigit = true ↔ 48 ≤ c.toNat ∧ c.toNat ≤ 57 := by
  change (decide (c.val ≥ '0'.val) && decide (c.val ≤ '9'.val)) = true ↔ _
  simp only [Char.toNat, Bool.and_eq_true, decide_eq_true_eq, ge_iff_le, UInt32.le_iff_toNat_le, Char.reduceVal,
    UInt32.reduceToNat]

theorem isAlpha_iff : c.isAlpha = true ↔
    65 ≤ c.toNat ∧ c.toNat ≤ 90 ∨ 97 ≤ c.toNat ∧ c.toNat ≤ 122 := by
  change (decide (c.val ≥ 'A'.val ∧ c.val ≤ 'Z'.val) || decide (c.val ≥ 'a'.val) && decide (c.val ≤ 'z'.val))
    = true ↔ _
  simp only [Char.toNat, Bool.or_eq_true, Bool.and_eq_true, decide_eq_true_eq, ge_iff_le,
    UInt32.le_iff_toNat_le, Char.reduceVal, UInt32.reduceToNat]

theorem isDigit_of_isBlank (blank : isBlank c = true) : c.isDigit = false := by
  rw [isBlank_iff] at blank
  rw [← Bool.not_eq_true, isDigit_iff]
  omega

theorem isAlpha_of_isBlank (blank : isBlank c = true) : c.isAlpha = false := by
  rw [isBlank_iff] at blank
  rw [← Bool.not_eq_true, isAlpha_iff]
  omega

theorem toLower_of_isBlank (blank : isBlank c = true) : c.toLower = c := by
  have letter := isAlpha_of_isBlank blank
  rw [← Bool.not_eq_true, isAlpha_iff] at letter
  have outside : ¬ (c.val ≥ 'A'.val ∧ c.val ≤ 'Z'.val) := by
    simp only [ge_iff_le, UInt32.le_iff_toNat_le, Char.reduceVal, UInt32.reduceToNat]
    simp only [Char.toNat] at letter
    omega
  exact dif_neg outside

theorem isIdentifier_of_isBlank (blank : isBlank c = true) :
    isIdentifierStart c = false ∧ isIdentifierTail c = false := by
  have ranges : ∀ code ∈ [0x85, 0xA0, 0x1680, 0x2000, 0x2001, 0x2002, 0x2003, 0x2004, 0x2005, 0x2006,
      0x2007, 0x2008, 0x2009, 0x200A, 0x2028, 0x2029, 0x202F, 0x205F, 0x3000],
      Range.anyHolds identifierStarts code = false ∧ Range.anyHolds identifierTails code = false := by
    decide +kernel
  by_cases ascii : c.toNat < 128
  · have joint : (c == '_') = false := beq_false_of_ne (ne_of_isBlank blank (by decide))
    simp only [isIdentifierStart, isIdentifierTail, ascii, if_true, Char.isAlphanum,
      isDigit_of_isBlank blank, isAlpha_of_isBlank blank, joint, Bool.or_self, and_self]
  · simp only [isIdentifierStart, isIdentifierTail, ascii, if_false]
    apply ranges
    rw [isBlank_iff] at blank
    simp only [List.mem_cons, List.not_mem_nil, or_false]
    omega

theorem isPrintable_of_isBlank (blank : isBlank c = true) (ascii : c.toNat < 128) (inked : c ≠ ' ') :
    isPrintable c = false := by
  have codes : ∀ code ∈ [9, 10, 11, 12, 13, 28, 29, 30, 31], Range.anyHolds unprintable code = true := by
    decide +kernel
  have apart : c.toNat ≠ 32 := fun same => inked (Char.toNat_inj.mp same)
  rw [isBlank_iff] at blank
  have member : c.toNat ∈ [9, 10, 11, 12, 13, 28, 29, 30, 31] := by
    simp only [List.mem_cons, List.not_mem_nil, or_false]
    omega
  rw [isPrintable, if_neg (by omega), codes _ member]
  rfl

end Classes

/-! ## Trimming -/

def AllBlank (chars : List Char) : Prop := ∀ c ∈ chars, isBlank c = true

theorem AllBlank.append {first second : List Char} (left : AllBlank first) (right : AllBlank second) :
    AllBlank (first ++ second) :=
  fun c member => (List.mem_append.mp member).elim (left c) (right c)

/-- The text neither begins nor ends with a blank. -/
structure Solid (chars : List Char) : Prop where
  first (c : Char) (found : chars.head? = some c) : isBlank c = false
  last (c : Char) (found : chars.getLast? = some c) : isBlank c = false

theorem Solid.of_any {chars : List Char} (first : chars.head?.any isBlank = false)
    (last : chars.getLast?.any isBlank = false) : Solid chars where
  first c found := by rwa [found] at first
  last c found := by rwa [found] at last

theorem isBlank_of_any {word : List Char} (free : word.any isBlank = false) (c : Char) (listed : c ∈ word) :
    isBlank c = false := by
  simpa only [Bool.not_eq_true] using List.any_eq_false.mp free c listed

theorem head?_dropWhile {chars : List Char} {c : Char}
    (found : (chars.dropWhile isBlank).head? = some c) : isBlank c = false := by
  have first := List.head?_dropWhile_not isBlank chars
  rwa [found] at first

/-- Trimming takes away blanks at both ends, and nothing else. -/
theorem trimChars_between (chars : List Char) :
    ∃ lead trail, AllBlank lead ∧ AllBlank trail ∧ chars = lead ++ trimChars chars ++ trail := by
  have blanks (part : List Char) : AllBlank (part.takeWhile isBlank) :=
    List.all_eq_true.mp List.all_takeWhile
  let kept := chars.dropWhile isBlank
  refine ⟨chars.takeWhile isBlank, (kept.reverse.takeWhile isBlank).reverse, blanks chars, ?_, ?_⟩
  · intro c member
    exact blanks _ c (List.mem_reverse.mp member)
  · have whole : trimChars chars ++ (kept.reverse.takeWhile isBlank).reverse = kept := by
      rw [trimChars, ← List.reverse_append, List.takeWhile_append_dropWhile, List.reverse_reverse]
    rw [List.append_assoc, whole, List.takeWhile_append_dropWhile]

theorem solid_trimChars (chars : List Char) : Solid (trimChars chars) := by
  constructor
  · intro c found
    -- what is kept in the end begins as what was kept at first
    have start : trimChars chars <+: chars.dropWhile isBlank := by
      rw [trimChars, ← List.reverse_suffix, List.reverse_reverse]
      exact List.dropWhile_suffix isBlank
    obtain ⟨more, whole⟩ := start
    refine @head?_dropWhile chars c ?_
    rw [← whole, List.head?_append, found, Option.some_or]
  · intro c found
    rw [trimChars, List.getLast?_reverse] at found
    exact head?_dropWhile found

theorem prefix_trimChars {chars : List Char} (solid : Solid chars) (rest : List Char) :
    chars <+: trimChars (chars ++ rest) := by
  have unchanged {part : List Char} (first : ∀ c, part.head? = some c → isBlank c = false) :
      part.dropWhile isBlank = part := by
    cases part with
    | nil => rfl
    | cons c more => exact List.dropWhile_cons_of_neg (by simp [first c rfl])
  have backwards : chars.reverse.dropWhile isBlank = chars.reverse :=
    unchanged fun c found => solid.last c (by rwa [List.head?_reverse] at found)
  cases chars with
  | nil => exact List.nil_prefix
  | cons c more =>
    have forwards : (c :: more ++ rest).dropWhile isBlank = c :: more ++ rest :=
      unchanged fun d found => solid.first d found
    rw [trimChars, forwards, List.reverse_append, List.dropWhile_append]
    split
    · exact ⟨[], by rw [backwards, List.reverse_reverse, List.append_nil]⟩
    · rw [List.reverse_append, List.reverse_reverse]
      exact List.prefix_append ..

/-! ## Trimmed texts -/

theorem trimChars_isInfix (chars : List Char) : trimChars chars <:+: chars := by
  obtain ⟨lead, trail, _, _, whole⟩ := trimChars_between chars
  exact ⟨lead, trail, whole.symm⟩

theorem trimChars_of_solid {chars : List Char} (solid : Solid chars) : trimChars chars = chars := by
  have kept := prefix_trimChars solid []
  rw [List.append_nil] at kept
  exact (kept.eq_of_length_le (trimChars_isInfix chars).length_le).symm

theorem trim_trim (text : String) : trim (trim text) = trim text := by
  rw [trim, trim, String.toList_ofList, trimChars_of_solid (solid_trimChars _)]

/-- Blanks around a text do not matter to what is left of it. -/
theorem trimChars_around {lead trail : List Char} (leads : AllBlank lead) (trails : AllBlank trail)
    (chars : List Char) : trimChars (lead ++ chars ++ trail) = trimChars chars := by
  have backwards : AllBlank trail.reverse := fun c member => trails c (List.mem_reverse.mp member)
  have none_left : trail.dropWhile isBlank = [] := by
    rw [← List.append_nil trail, List.dropWhile_append_of_pos trails, List.dropWhile_nil]
  rw [trimChars, trimChars, List.append_assoc, List.dropWhile_append_of_pos leads, List.dropWhile_append]
  split
  · next empty => rw [none_left, List.isEmpty_iff.mp empty]
  · rw [List.reverse_append, List.dropWhile_append_of_pos backwards]

/-- Trimming takes no part without blanks away. -/
theorem infix_trimChars_iff {part : List Char} (some_part : part ≠ [])
    (inked : ∀ c ∈ part, isBlank c = false) (chars : List Char) :
    part <:+: trimChars chars ↔ part <:+: chars := by
  refine ⟨fun found => found.trans (trimChars_isInfix chars), fun found => ?_⟩
  obtain ⟨lead, trail, leads, trails, whole⟩ := trimChars_between chars
  have outside {blanks : List Char} (all : AllBlank blanks) (c : Char) (listed : c ∈ part) : c ∉ blanks :=
    fun member => ne_of_isBlank (all c member) (inked c listed) rfl
  cases part with
  | nil => exact absurd rfl some_part
  | cons head part =>
    have first : head ∈ head :: part := List.mem_cons_self
    rw [whole, List.append_assoc, infix_append_of_not_mem (outside leads head first)] at found
    cases trail with
    | nil => rwa [List.append_nil] at found
    | cons blank trail =>
      have free : blank ∉ head :: part := fun listed => outside trails blank listed List.mem_cons_self
      rcases (infix_append_mark_iff _ _ free).mp found with within | behind
      · exact within
      · have member := List.mem_cons_of_mem blank (behind.subset first)
        exact absurd member (outside trails head first)

end Refactory.Text
