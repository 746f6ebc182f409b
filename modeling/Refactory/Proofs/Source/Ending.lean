import Refactory.Proofs.Text.Blank
import Refactory.Source.Token.Lexer

/-! What the scanners see of the blanks that end a text.

No part of a token is blank, so a scanner that comes to the end of what is not blank stops there. It
finds the same whether one line end follows or any other blanks that end a line.
-/

set_option autoImplicit false

namespace Refactory.Source

open Text (isBlank AllBlank)

structure Trailing (chars : List Char) : Prop where
  blank : AllBlank chars
  ended : chars.getLast? = some '\n'

theorem Trailing.exists_cons {chars : List Char} (trailing : Trailing chars) :
    ∃ c rest, chars = c :: rest ∧ isBlank c = true := by
  obtain ⟨c, rest, rfl⟩ := List.exists_cons_of_ne_nil (l := chars) fun none_there => by
    have ended := trailing.ended
    rw [none_there] at ended
    cases ended
  exact ⟨c, rest, rfl, trailing.blank c List.mem_cons_self⟩

theorem trailing_lineEnd : Trailing ['\n'] := ⟨by simp [AllBlank]; decide, rfl⟩

theorem Trailing.suffix {chars rest : List Char} (trailing : Trailing chars) (later : rest <:+ chars)
    (nonempty : rest ≠ []) : Trailing rest := by
  refine ⟨fun c member => trailing.blank c (later.subset member), ?_⟩
  obtain ⟨taken, rfl⟩ := later
  rw [← trailing.ended, List.getLast?_append, List.getLast?_eq_some_getLast nonempty, Option.some_or]

theorem Trailing.behind {c : Char} {rest : List Char} (trailing : Trailing (c :: rest)) : AllBlank rest :=
  fun d member => trailing.blank d (List.mem_cons_of_mem c member)

theorem Trailing.fromLineEnd {chars : List Char} (trailing : Trailing chars) :
    Trailing (chars.dropWhile (· != '\n')) := by
  refine trailing.suffix (List.dropWhile_suffix _) ?_
  intro none_left
  have whole := List.takeWhile_append_dropWhile (p := (· != '\n')) (l := chars)
  rw [none_left, List.append_nil] at whole
  have last : '\n' ∈ chars.takeWhile (· != '\n') := by
    rw [whole]
    exact List.mem_of_getLast? trailing.ended
  exact absurd (List.all_eq_true.mp List.all_takeWhile '\n' last) (by decide)

/-- The second text is the first with the blanks at its end clipped to a line end. -/
inductive Clipped : List Char → List Char → Prop where
  | tail {chars : List Char} : Trailing chars → Clipped chars ['\n']
  | cons (c : Char) {chars clipped : List Char} : Clipped chars clipped → Clipped (c :: chars) (c :: clipped)

namespace Clipped

variable {chars clipped : List Char}

theorem ne_nil (ends : Clipped chars clipped) : chars.isEmpty = false ∧ clipped.isEmpty = false := by
  cases ends with
  | tail trailing =>
    obtain ⟨c, rest, rfl, _⟩ := trailing.exists_cons
    exact ⟨rfl, rfl⟩
  | cons c ends => exact ⟨rfl, rfl⟩

/-- A character with more behind it is no backslash if it is none before some other character. -/
theorem ne_of_alone (ends : Clipped chars clipped) {c : Char}
    (alone : ∀ d rest, c = '\\' → chars = d :: rest → False) : c ≠ '\\' := by
  intro slash
  cases chars with
  | nil => cases ends.ne_nil.1
  | cons d rest => exact alone d rest slash rfl

theorem of_solid {c : Char} (ends : Clipped (c :: chars) clipped) (solid : isBlank c = false) :
    ∃ rest, clipped = c :: rest ∧ Clipped chars rest := by
  cases ends with
  | tail trailing =>
    have blank := trailing.blank c List.mem_cons_self
    rw [solid] at blank
    cases blank
  | cons _ ends => exact ⟨_, rfl, ends⟩

theorem isPrefixOf_eq (ends : Clipped chars clipped) {word : List Char}
    (solid : ∀ c ∈ word, isBlank c = false) : word.isPrefixOf chars = word.isPrefixOf clipped := by
  induction word generalizing chars clipped with
  | nil => rfl
  | cons w word ih =>
    have first := solid w List.mem_cons_self
    cases ends with
    | tail trailing =>
      obtain ⟨c, rest, rfl, blank⟩ := trailing.exists_cons
      have apart : (w == c) = false := by simpa using (Text.ne_of_isBlank blank first).symm
      have other : (w == '\n') = false := by simpa using (Text.ne_of_isBlank (by decide) first).symm
      simp [List.isPrefixOf, apart, other]
    | cons c ends =>
      rw [List.isPrefixOf, List.isPrefixOf, ih ends fun d member => solid d (List.mem_cons_of_mem w member)]

theorem drop (ends : Clipped chars clipped) {word : List Char} (solid : ∀ c ∈ word, isBlank c = false)
    (begins : word.isPrefixOf chars = true) : Clipped (chars.drop word.length) (clipped.drop word.length) := by
  induction word generalizing chars clipped with
  | nil => exact ends
  | cons w word ih =>
    obtain ⟨rest, rfl⟩ := List.isPrefixOf_iff_prefix.mp begins
    obtain ⟨others, rfl, left⟩ := ends.of_solid (solid w List.mem_cons_self)
    exact ih left (fun d member => solid d (List.mem_cons_of_mem w member))
      (List.isPrefixOf_iff_prefix.mpr (List.prefix_append word rest))

theorem head?_any_eq (ends : Clipped chars clipped) {test : Char → Bool}
    (solid : ∀ c, isBlank c = true → test c = false) : chars.head?.any test = clipped.head?.any test := by
  cases ends with
  | tail trailing =>
    obtain ⟨c, rest, rfl, blank⟩ := trailing.exists_cons
    simp [solid c blank, solid '\n' (by decide)]
  | cons c ends => rfl

theorem head?_eq_iff (ends : Clipped chars clipped) {c : Char} (solid : isBlank c = false) :
    chars.head? = some c ↔ clipped.head? = some c := by
  cases ends with
  | tail trailing =>
    obtain ⟨d, rest, rfl, blank⟩ := trailing.exists_cons
    have apart : d ≠ c ∧ '\n' ≠ c := ⟨Text.ne_of_isBlank blank solid, Text.ne_of_isBlank (by decide) solid⟩
    simp [apart]
  | cons d ends => exact Iff.rfl

end Clipped

/-- The first text comes to `rest` where the second comes to `left`, and both are clipped alike there. -/
structure Reaches (chars clipped rest left : List Char) : Prop where
  ends : Clipped rest left
  first : rest <:+ chars
  second : left <:+ clipped

namespace Reaches

variable {chars clipped rest left more others : List Char}

theorem refl (ends : Clipped chars clipped) : Reaches chars clipped chars clipped :=
  ⟨ends, List.suffix_rfl, List.suffix_rfl⟩

theorem trans (near : Reaches chars clipped rest left) (far : Reaches rest left more others) :
    Reaches chars clipped more others :=
  ⟨far.ends, far.first.trans near.first, far.second.trans near.second⟩

theorem cons (c d : Char) (near : Reaches chars clipped rest left) :
    Reaches (c :: chars) (d :: clipped) rest left :=
  ⟨near.ends, near.first.trans (List.suffix_cons c chars), near.second.trans (List.suffix_cons d clipped)⟩

end Reaches

/-! ## Strings -/

section Strings

variable {quote c : Char} {length lines last begun : Nat} {chars clipped rest left : List Char}

/-- From `length` characters on, both texts have the same characters up to the end of the literal. -/
structure ClosesAlike (length last : Nat) (chars clipped rest left : List Char) : Prop where
  body : ∃ size, last = length + size ∧ chars.take size = clipped.take size
  reaches : Reaches chars clipped rest left

theorem ClosesAlike.cons (c : Char) (alike : ClosesAlike (length + 1) last chars clipped rest left) :
    ClosesAlike length last (c :: chars) (c :: clipped) rest left := by
  obtain ⟨⟨size, rfl, same⟩, reaches⟩ := alike
  exact ⟨⟨size + 1, by omega, by rw [List.take_succ_cons, List.take_succ_cons, same]⟩, reaches.cons c c⟩

theorem ClosesAlike.here (reaches : Reaches chars clipped rest left) :
    ClosesAlike length length chars clipped rest left :=
  ⟨⟨0, rfl, rfl⟩, reaches⟩

theorem endOfShort_cons (no_feed : c ≠ '\n') (no_slash : c ≠ '\\') (rest : List Char) :
    endOfShort quote length lines (c :: rest) =
      if c = quote then .ok (length, lines, rest) else endOfShort quote (length + 1) lines rest := by
  rw [endOfShort]
  · exact no_feed
  · exact fun _ _ same => absurd same no_slash

theorem endOfShort_of_allBlank (solid : isBlank quote = false) (blanks : AllBlank chars) :
    endOfShort quote length lines chars ≠ .ok (last, begun, rest) := by
  induction chars generalizing length with
  | nil => nofun
  | cons c chars ih =>
    have blank := blanks c List.mem_cons_self
    by_cases feed : c = '\n'
    · subst feed
      nofun
    · rw [endOfShort_cons feed (Text.ne_of_isBlank blank (by decide)),
        if_neg (Text.ne_of_isBlank blank solid)]
      exact ih fun d member => blanks d (List.mem_cons_of_mem c member)

theorem endOfShort_clipped (solid : isBlank quote = false) (ends : Clipped chars clipped)
    (found : endOfShort quote length lines chars = .ok (last, begun, rest)) :
    ∃ left, endOfShort quote length lines clipped = .ok (last, begun, left) ∧
      ClosesAlike length last chars clipped rest left := by
  fun_induction endOfShort quote length lines chars generalizing clipped with
  | case1 => cases found
  | case2 => cases found
  | case3 length lines c more ih =>
    obtain ⟨others, rfl, after⟩ := ends.of_solid (by decide)
    cases after with
    | tail trailing => exact absurd found (endOfShort_of_allBlank solid trailing.behind)
    | cons _ after =>
      obtain ⟨left, again, alike⟩ := ih after found
      refine ⟨left, ?_, (alike.cons c).cons '\\'⟩
      rw [endOfShort, after.ne_nil.2, ← after.ne_nil.1]
      exact again
  | case4 length lines more no_feed no_slash =>
    cases found
    obtain ⟨others, rfl, after⟩ := ends.of_solid solid
    refine ⟨others, ?_, .here ((Reaches.refl after).cons quote quote)⟩
    rw [endOfShort_cons no_feed (after.ne_of_alone no_slash), if_pos rfl]
  | case5 length lines c more no_feed no_slash other ih =>
    cases ends with
    | tail trailing => exact absurd found (endOfShort_of_allBlank solid trailing.behind)
    | cons _ after =>
      obtain ⟨left, again, alike⟩ := ih after found
      refine ⟨left, ?_, alike.cons c⟩
      rw [endOfShort_cons no_feed (after.ne_of_alone no_slash), if_neg other]
      exact again

theorem endOfLong_cons (no_slash : c ≠ '\\') (rest : List Char) :
    endOfLong quote length lines (c :: rest) =
      if c = quote ∧ [quote, quote].isPrefixOf rest then .ok (length, lines, rest.drop 2)
      else endOfLong quote (length + 1) (if c = '\n' ∧ !rest.isEmpty then lines + 1 else lines) rest := by
  rw [endOfLong]
  exact fun _ _ same => absurd same no_slash

theorem endOfLong_of_allBlank (solid : isBlank quote = false) (blanks : AllBlank chars) :
    endOfLong quote length lines chars ≠ .ok (last, begun, rest) := by
  induction chars generalizing length lines with
  | nil => nofun
  | cons c chars ih =>
    have blank := blanks c List.mem_cons_self
    rw [endOfLong_cons (Text.ne_of_isBlank blank (by decide)),
      if_neg fun closes => Text.ne_of_isBlank blank solid closes.1]
    exact ih fun d member => blanks d (List.mem_cons_of_mem c member)

theorem endOfLong_clipped (solid : isBlank quote = false) (ends : Clipped chars clipped)
    (found : endOfLong quote length lines chars = .ok (last, begun, rest)) :
    ∃ left, endOfLong quote length lines clipped = .ok (last, begun, left) ∧
      ClosesAlike length last chars clipped rest left := by
  have quotes : ∀ c ∈ [quote, quote], isBlank c = false := by simp [solid]
  fun_induction endOfLong quote length lines chars generalizing clipped with
  | case1 => cases found
  | case2 length lines c more ih =>
    obtain ⟨others, rfl, after⟩ := ends.of_solid (by decide)
    cases after with
    | tail trailing => exact absurd found (endOfLong_of_allBlank solid trailing.behind)
    | cons _ after =>
      obtain ⟨left, again, alike⟩ := ih after found
      refine ⟨left, ?_, (alike.cons c).cons '\\'⟩
      rw [endOfLong, after.ne_nil.2, ← after.ne_nil.1]
      exact again
  | case3 length lines c more no_slash closes =>
    obtain ⟨rfl, twice⟩ := closes
    cases found
    obtain ⟨others, rfl, after⟩ := ends.of_solid solid
    have again := after.isPrefixOf_eq quotes
    refine ⟨others.drop 2, ?_, .here ⟨after.drop quotes twice, ?_, ?_⟩⟩
    · rw [endOfLong_cons (after.ne_of_alone no_slash), if_pos ⟨rfl, by rwa [← again]⟩]
    · exact (List.drop_suffix 2 more).trans (List.suffix_cons c more)
    · exact (List.drop_suffix 2 others).trans (List.suffix_cons c others)
  | case4 length lines c more no_slash other ih =>
    cases ends with
    | tail trailing => exact absurd found (endOfLong_of_allBlank solid trailing.behind)
    | cons _ after =>
      obtain ⟨left, again, alike⟩ := ih after found
      refine ⟨left, ?_, alike.cons c⟩
      rw [endOfLong_cons (after.ne_of_alone no_slash), ← after.isPrefixOf_eq quotes, if_neg other,
        after.ne_nil.2, ← after.ne_nil.1]
      exact again

theorem scanQuoted_clipped {line : Nat} (other : Nat) {body : List Char} (solid : isBlank quote = false)
    (ends : Clipped chars clipped) (found : scanQuoted quote line chars = .ok (body, begun, rest)) :
    ∃ left, scanQuoted quote other clipped = .ok (body, begun, left) ∧ Reaches chars clipped rest left := by
  have quotes : ∀ c ∈ [quote, quote], isBlank c = false := by simp [solid]
  unfold scanQuoted at found ⊢
  rw [← ends.isPrefixOf_eq quotes]
  split at found
  · next twice =>
    have inner : Clipped (chars.drop 2) (clipped.drop 2) := ends.drop quotes twice
    simp only [if_pos twice]
    simp only at found
    split at found
    · next size lines others closed =>
      cases found
      obtain ⟨left, again, ⟨_, rfl, same⟩, reaches⟩ := endOfLong_clipped solid inner closed
      refine ⟨left, ?_, reaches.ends, reaches.first.trans (List.drop_suffix 2 chars),
        reaches.second.trans (List.drop_suffix 2 clipped)⟩
      rw [again]
      simp only [Nat.zero_add]
      rw [same]
    · cases found
  · next once =>
    simp only [if_neg once]
    split at found
    · next size lines others closed =>
      cases found
      obtain ⟨left, again, ⟨_, rfl, same⟩, reaches⟩ := endOfShort_clipped solid ends closed
      refine ⟨left, ?_, reaches⟩
      rw [again]
      simp only [Nat.zero_add]
      rw [same]
    · cases found

end Strings

end Refactory.Source
