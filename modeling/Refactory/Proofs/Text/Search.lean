import Refactory.Text.Search

/-! Occurrences of a text in another, across a separator and under replacement. -/

set_option autoImplicit false

namespace Refactory.Text

theorem occursIn_iff (part chars : List Char) : occursIn part chars = true ↔ part <:+: chars := by
  induction chars with
  | nil => simp [occursIn]
  | cons c rest ih => simp [occursIn, List.infix_cons_iff, ih]

theorem contains_iff (text part : String) :
    contains text part = true ↔ part.toList <:+: text.toList :=
  occursIn_iff _ _

theorem contains_trans {text part piece : String} (outer : contains text part = true)
    (inner : contains part piece = true) : contains text piece = true := by
  rw [contains_iff] at outer inner ⊢
  exact inner.trans outer

theorem contains_append_left {text part : String} (found : contains text part = true) (rest : String) :
    contains (text ++ rest) part = true := by
  rw [contains_iff] at found ⊢
  rw [String.toList_append]
  exact found.trans (List.prefix_append ..).isInfix

/-! ## Texts put together at a mark -/

theorem prefix_append_mark_iff {mark : Char} {part : List Char} (first second : List Char)
    (free : mark ∉ part) : part <+: first ++ mark :: second ↔ part <+: first := by
  -- both texts are read together until the first one or the part ends
  induction first generalizing part with
  | nil =>
    rw [List.nil_append, List.prefix_cons_iff, List.prefix_nil]
    constructor
    · rintro (empty | ⟨rest, rfl, _⟩)
      · exact empty
      · exact absurd (List.mem_cons_self ..) free
    · exact Or.inl
  | cons c first ih =>
    rw [List.cons_append, List.prefix_cons_iff, List.prefix_cons_iff]
    constructor
    · rintro (empty | ⟨rest, rfl, start⟩)
      · exact Or.inl empty
      · exact Or.inr ⟨rest, rfl, (ih (List.not_mem_of_not_mem_cons free)).mp start⟩
    · rintro (empty | ⟨rest, rfl, start⟩)
      · exact Or.inl empty
      · exact Or.inr ⟨rest, rfl, (ih (List.not_mem_of_not_mem_cons free)).mpr start⟩

/-- A part without the mark lies on one side of it. -/
theorem infix_append_mark_iff {mark : Char} {part : List Char} (first second : List Char)
    (free : mark ∉ part) :
    part <:+: first ++ mark :: second ↔ part <:+: first ∨ part <:+: second := by
  induction first with
  | nil =>
    have start := prefix_append_mark_iff [] second free
    rw [List.nil_append] at start ⊢
    rw [List.infix_cons_iff, start, List.prefix_nil, List.infix_nil]
  | cons c first ih =>
    have start := prefix_append_mark_iff (c :: first) second free
    rw [List.cons_append] at start ⊢
    rw [List.infix_cons_iff, start, ih, List.infix_cons_iff, or_assoc]

theorem infix_append_of_not_mem {head : Char} {first : List Char} (free : head ∉ first)
    (part second : List Char) : head :: part <:+: first ++ second ↔ head :: part <:+: second := by
  induction first with
  | nil => rw [List.nil_append]
  | cons c rest ih =>
    rw [List.mem_cons, not_or] at free
    rw [List.cons_append, List.infix_cons_iff, List.cons_prefix_cons, ih free.2]
    constructor
    · rintro (⟨same, _⟩ | later)
      · exact absurd same free.1
      · exact later
    · exact Or.inr

/-- A part of one line of two texts with a line end between them is a part of one of the texts. -/
theorem contains_lines (first second part : String) (single : '\n' ∉ part.toList) :
    contains (first ++ "\n" ++ second) part = (contains first part || contains second part) := by
  rw [Bool.eq_iff_iff, Bool.or_eq_true, contains_iff, contains_iff, contains_iff]
  have parts : (first ++ "\n" ++ second).toList = first.toList ++ '\n' :: second.toList := by
    simp
  rw [parts]
  exact infix_append_mark_iff first.toList second.toList single

theorem infix_intercalate {mark part : List Char} {parts : List (List Char)} (member : part ∈ parts) :
    part <:+: mark.intercalate parts := by
  induction parts with
  | nil => cases member
  | cons first rest ih =>
    cases rest with
    | nil => simp_all
    | cons second rest =>
      rw [List.intercalate_cons_cons, List.append_assoc]
      rcases List.mem_cons.mp member with rfl | later
      · exact (List.prefix_append ..).isInfix
      · exact (ih later).trans ((List.suffix_append ..).trans (List.suffix_append ..)).isInfix

theorem contains_intercalate {mark part : String} {parts : List String} (member : part ∈ parts) :
    contains (String.intercalate mark parts) part = true := by
  rw [contains_iff, String.toList_intercalate]
  exact infix_intercalate (List.mem_map.mpr ⟨part, member, rfl⟩)

/-! ## Replacement -/

theorem replaceFrom_append {mark : Char} {first : List Char} (free : mark ∉ first)
    (old new second : List Char) :
    replaceFrom (mark :: old) new 0 (first ++ second) =
      first ++ replaceFrom (mark :: old) new 0 second := by
  induction first with
  | nil => rfl
  | cons c rest ih =>
    have other : mark ≠ c := fun same => free (same ▸ List.mem_cons_self)
    have here : (mark :: old).isPrefixOf (c :: (rest ++ second)) = false := by
      simp [List.isPrefixOf, other]
    rw [List.cons_append, replaceFrom, here, if_neg Bool.false_ne_true,
      ih (List.not_mem_of_not_mem_cons free), List.cons_append]

theorem replaceFrom_of_not_occursIn {old chars : List Char} (absent : occursIn old chars = false)
    (new : List Char) : replaceFrom old new 0 chars = chars := by
  induction chars with
  | nil => rfl
  | cons c rest ih =>
    rw [occursIn, Bool.or_eq_false_iff] at absent
    rw [replaceFrom, absent.1, if_neg Bool.false_ne_true, ih absent.2]

theorem replace_of_not_contains {text old : String} (absent : contains text old = false) (new : String) :
    replace text old new = text := by
  rw [replace, replaceFrom_of_not_occursIn absent, String.ofList_toList]

theorem replaceFrom_skip (old new first second : List Char) :
    replaceFrom old new first.length (first ++ second) = replaceFrom old new 0 second := by
  induction first with
  | nil => rfl
  | cons c rest ih => rw [List.cons_append, List.length_cons, replaceFrom, ih]

theorem replaceFrom_occurrence {old : List Char} (some_old : old ≠ []) (new rest : List Char) :
    replaceFrom old new 0 (old ++ rest) = new ++ replaceFrom old new 0 rest := by
  cases old with
  | nil => exact absurd rfl some_old
  | cons c old =>
    have here : (c :: old).isPrefixOf (c :: (old ++ rest)) = true :=
      List.isPrefixOf_iff_prefix.mpr (List.prefix_append (c :: old) rest)
    rw [List.cons_append, replaceFrom, if_pos here, List.length_cons, Nat.add_sub_cancel, replaceFrom_skip]

/-- Up to a mark that can only begin what is replaced, a text is read apart from the rest. -/
theorem replaceFrom_append_mark {mark first : Char} {old : List Char} (free : mark ∉ old)
    (new before after : List Char) {skip : Nat} (within : skip ≤ before.length) :
    replaceFrom (first :: old) new skip (before ++ mark :: after) =
      replaceFrom (first :: old) new skip before ++ replaceFrom (first :: old) new 0 (mark :: after) := by
  induction before generalizing skip with
  | nil =>
    obtain rfl : skip = 0 := Nat.le_zero.mp within
    rfl
  | cons c rest ih =>
    cases skip with
    | succ skip =>
      rw [List.cons_append, replaceFrom, replaceFrom, ih (Nat.le_of_succ_le_succ within)]
    | zero =>
      -- an occurrence that begins here ends before the mark
      have here : (first :: old).isPrefixOf (c :: (rest ++ mark :: after)) =
          (first :: old).isPrefixOf (c :: rest) := by
        rw [Bool.eq_iff_iff, List.isPrefixOf_iff_prefix, List.isPrefixOf_iff_prefix,
          List.cons_prefix_cons, List.cons_prefix_cons, prefix_append_mark_iff rest after free]
      rw [List.cons_append, replaceFrom, replaceFrom, here]
      split
      · next found =>
        have fits : old.length ≤ rest.length :=
          (List.cons_prefix_cons.mp (List.isPrefixOf_iff_prefix.mp found)).2.length_le
        rw [ih (by simpa using fits), List.append_assoc]
      · rw [ih (Nat.zero_le _), List.cons_append]

/-- A mark that is no part of what is replaced parts a text into two that are read on their own. -/
theorem replaceFrom_parted {mark : Char} {old : List Char} (some_old : old ≠ []) (free : mark ∉ old)
    (new before after : List Char) :
    replaceFrom old new 0 (before ++ mark :: after) =
      replaceFrom old new 0 before ++ mark :: replaceFrom old new 0 after := by
  cases old with
  | nil => exact absurd rfl some_old
  | cons c old =>
    have other : c ∉ [mark] := fun member => free (List.mem_singleton.mp member ▸ List.mem_cons_self)
    rw [replaceFrom_append_mark (List.not_mem_of_not_mem_cons free) new before after (Nat.zero_le _)]
    exact congrArg _ (replaceFrom_append other old new after)

theorem mem_of_mem_replaceFrom {old new chars : List Char} {skip : Nat} {c : Char}
    (member : c ∈ replaceFrom old new skip chars) : c ∈ chars ∨ c ∈ new := by
  induction chars generalizing skip with
  | nil => cases member
  | cons d rest ih =>
    cases skip with
    | succ skip => exact (ih member).imp_left (List.mem_cons_of_mem d)
    | zero =>
      rw [replaceFrom] at member
      split at member
      · rcases List.mem_append.mp member with put | later
        · exact .inr put
        · exact (ih later).imp_left (List.mem_cons_of_mem d)
      · rcases List.mem_cons.mp member with rfl | later
        · exact .inl List.mem_cons_self
        · exact (ih later).imp_left (List.mem_cons_of_mem d)

/-! ## Groups of one character taken out -/

section Runs

variable {mark : Char} {rest : List Char} {size length : Nat}

theorem run_ne_nil (some_length : 0 < length) : List.replicate length mark ≠ [] :=
  fun empty => Nat.ne_of_gt some_length (List.replicate_eq_nil_iff mark |>.mp empty)

theorem not_prefix_run (border : rest.head? ≠ some mark) (short : length < size) :
    ¬ List.replicate size mark <+: List.replicate length mark ++ rest := by
  induction length generalizing size with
  | zero =>
    cases size with
    | zero => cases short
    | succ size =>
      rintro ⟨more, whole⟩
      rw [List.replicate_zero, List.nil_append] at whole
      exact border (congrArg List.head? whole.symm)
  | succ length ih =>
    cases size with
    | zero => cases short
    | succ size =>
      rw [List.replicate_succ, List.replicate_succ, List.cons_append, List.cons_prefix_cons]
      exact fun both => ih (Nat.lt_of_succ_lt_succ short) both.2

theorem replaceFrom_short_run (border : rest.head? ≠ some mark) (short : length < size) (new : List Char) :
    replaceFrom (List.replicate size mark) new 0 (List.replicate length mark ++ rest) =
      List.replicate length mark ++ replaceFrom (List.replicate size mark) new 0 rest := by
  induction length with
  | zero => rfl
  | succ length ih =>
    have here := mt List.isPrefixOf_iff_prefix.mp (not_prefix_run border short)
    rw [@List.replicate_succ _ mark length, List.cons_append] at here ⊢
    rw [replaceFrom, if_neg here, ih (Nat.lt_of_succ_lt short), List.cons_append]

/-- Taking groups out of a run leaves the remainder of its length. -/
theorem replaceFrom_run (border : rest.head? ≠ some mark) (some_size : 0 < size) (length : Nat) :
    replaceFrom (List.replicate size mark) [] 0 (List.replicate length mark ++ rest) =
      List.replicate (length % size) mark ++ replaceFrom (List.replicate size mark) [] 0 rest := by
  induction length using Nat.strongRecOn with
  | ind length ih =>
    by_cases short : length < size
    · rw [Nat.mod_eq_of_lt short, replaceFrom_short_run border short]
    · obtain ⟨less, rfl⟩ := Nat.exists_eq_add_of_le (Nat.le_of_not_lt short)
      rw [← List.replicate_append_replicate, List.append_assoc, replaceFrom_occurrence (run_ne_nil some_size),
        List.nil_append, ih less (Nat.lt_add_of_pos_left some_size), Nat.add_mod_left]

theorem not_infix_remainder (mark : Char) (some_size : 0 < size) (length : Nat) :
    ¬ List.replicate size mark <:+: List.replicate (length % size) mark := by
  intro found
  have bound := found.length_le
  rw [List.length_replicate, List.length_replicate] at bound
  exact Nat.not_le_of_lt (Nat.mod_lt length some_size) bound

/-- Where groups are taken out of a run and a text behind it, none comes about. -/
theorem not_infix_after_run (mark : Char) (some_size : 0 < size) (length : Nat) (chars : List Char) :
    ¬ List.replicate size mark <:+:
      replaceFrom (List.replicate size mark) [] 0 (List.replicate length mark ++ chars) := by
  -- the text either makes the run longer or ends it
  induction chars generalizing length with
  | nil =>
    have border : [].head? ≠ some mark := (Option.some_ne_none mark).symm
    rw [replaceFrom_run border some_size, replaceFrom, List.append_nil]
    exact not_infix_remainder mark some_size length
  | cons c rest ih =>
    by_cases same : c = mark
    · have longer := ih (length + 1)
      rw [@List.replicate_succ' length, List.append_assoc] at longer
      rw [same]
      exact longer
    · have border : (c :: rest).head? ≠ some mark := fun starts => same (Option.some.inj starts)
      have free : c ∉ List.replicate size mark := fun member => same (List.eq_of_mem_replicate member)
      have kept := replaceFrom_parted (run_ne_nil some_size) free [] [] rest
      rw [List.nil_append, replaceFrom, List.nil_append] at kept
      -- a group lies on one side of the character that ends the run
      rw [replaceFrom_run border some_size, kept, infix_append_mark_iff _ _ free]
      rintro (within | later)
      · exact not_infix_remainder mark some_size length within
      · exact ih 0 later

theorem not_infix_replaceFrom (mark : Char) (some_size : 0 < size) (chars : List Char) :
    ¬ List.replicate size mark <:+: replaceFrom (List.replicate size mark) [] 0 chars :=
  not_infix_after_run mark some_size 0 chars

end Runs

/-! ## Replacement by something longer -/

/-- Of the characters that are read, only those that belong to the last occurrence can be missing. -/
theorem length_le_replaceFrom {old new : List Char} (some_old : 0 < old.length)
    (longer : old.length ≤ new.length) (skip : Nat) (chars : List Char) :
    chars.length ≤ (replaceFrom old new skip chars).length + skip := by
  induction chars generalizing skip with
  | nil => simp
  | cons c rest ih =>
    cases skip with
    | succ skip =>
      have bound := ih skip
      simp only [replaceFrom, List.length_cons]
      omega
    | zero =>
      simp only [replaceFrom]
      split
      · have bound := ih (old.length - 1)
        simp only [List.length_append, List.length_cons]
        omega
      · have bound := ih 0
        simp only [List.length_cons]
        omega

theorem length_lt_replaceFrom {old new chars : List Char} (some_old : 0 < old.length)
    (longer : old.length < new.length) (found : occursIn old chars = true) :
    chars.length < (replaceFrom old new 0 chars).length := by
  induction chars with
  | nil => simp [occursIn, List.isEmpty_iff] at found; simp [found] at some_old
  | cons c rest ih =>
    -- an occurrence here makes the text longer, and what follows it cannot make up for that
    by_cases start : old.isPrefixOf (c :: rest)
    · have bound := length_le_replaceFrom some_old (Nat.le_of_lt longer) (old.length - 1) rest
      simp only [replaceFrom, start, if_true, List.length_append, List.length_cons]
      omega
    · have later : occursIn old rest = true := by simpa [occursIn, start] using found
      simp only [replaceFrom, start, List.length_cons]
      have bound := ih later
      simp only [Bool.false_eq_true, if_false, List.length_cons]
      omega

theorem replace_ne {text old new : String} (some_old : 0 < old.toList.length)
    (longer : old.toList.length < new.toList.length) (found : contains text old = true) :
    replace text old new ≠ text := by
  intro same
  have bound := length_lt_replaceFrom some_old longer found
  have chars : (replace text old new).toList = replaceFrom old.toList new.toList 0 text.toList := by
    simp [replace]
  rw [← chars, same] at bound
  exact Nat.lt_irrefl _ bound

theorem contains_of_endsWith {text ending : String} (ends : endsWith text ending = true) :
    contains text ending = true := by
  rw [contains_iff]
  exact (List.isSuffixOf_iff_suffix.mp ends).isInfix

theorem append_ne_append {first second : String} {c d : Char} (starts : first.toList.head? = some c)
    (other : second.toList.head? = some d) (apart : c ≠ d) (left right : String) :
    first ++ left ≠ second ++ right := by
  intro same
  have heads := congrArg (·.toList.head?) same
  simp only [String.toList_append, List.head?_append, starts, other, Option.some_or, Option.some.injEq] at heads
  exact apart heads

end Refactory.Text
