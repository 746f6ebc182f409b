import Refactory.Proofs.Source.Lexing

/-! Rounds of the lexer at the start of a line, and up to the end of a text.

A run without a fault begins each line with a measured indentation and never meets a blank that is no
space inside one. With nothing but blanks to come it ends the line, if one is begun, and closes the open
indentations.
-/

set_option autoImplicit false

namespace Refactory.Source

open Text (isBlank AllBlank)

/-! ## Runs without a fault -/

def Faultless (tokens : List Token) : Prop := tokens.any Token.isFault = false

theorem Faultless.append {first second : List Token} (sound : Faultless (first ++ second)) :
    Faultless first ∧ Faultless second := by
  rwa [Faultless, List.any_append, Bool.or_eq_false_iff] at sound

theorem Faultless.tail {token : Token} {rest : List Token} (sound : Faultless (token :: rest)) :
    Faultless rest :=
  (show Faultless ([token] ++ rest) from sound).append.2

section Rounds

variable {fuel : Nat} {state : LexState} {chars : List Char}

theorem Faultless.step (sound : Faultless (scanFrom (fuel + 1) false state chars)) :
    (step state chars).isFault = false := by
  unfold scanFrom at sound
  cases taken : Source.step state chars with
  | stop last =>
    rw [taken] at sound
    exact (Bool.or_false _).symm.trans sound
  | token => rfl
  | skip => rfl
  | lineEnd => rfl

def lineAfter (chars : List Char) : List Char := (chars.dropWhile (· != '\n')).drop 1

def Tokenless (rest : List Char) : Prop := rest.head? = some '#' ∨ rest.head? = some '\n'

theorem blankLine?_of_tokenless (state : LexState) {rest : List Char} (empty : Tokenless rest) :
    ∃ line, blankLine? state rest = some ({ state with line }, lineAfter rest) := by
  have later : ∃ line, state.afterLineEnd (lineAfter rest) = { state with line } := by
    unfold LexState.afterLineEnd
    split
    · exact ⟨state.line, rfl⟩
    · exact ⟨state.line + 1, rfl⟩
  obtain ⟨line, same⟩ := later
  refine ⟨line, ?_⟩
  cases rest with
  | nil => exact absurd empty (by simp [Tokenless])
  | cons c more =>
    have first : c = '#' ∨ c = '\n' := by simpa [Tokenless] using empty
    simp only [blankLine?, if_pos first, ← same]
    rfl

theorem blankLine?_of_not_tokenless (state : LexState) {rest : List Char} (visible : ¬ Tokenless rest) :
    blankLine? state rest = none := by
  cases rest with
  | nil => rfl
  | cons c more =>
    have first : ¬ (c = '#' ∨ c = '\n') := by simpa [Tokenless] using visible
    simp only [blankLine?, if_neg first]

/-- The two ways to begin a line, after its indentation. -/
inductive Begun (fuel : Nat) (state : LexState) (width : Indentation) (rest : List Char) :
    List Token → Prop where
  | tokenless (line : Nat) : Tokenless rest →
      Begun fuel state width rest (scanFrom fuel true { state with line } (lineAfter rest))
  | line (line : Nat) {lexemes : List Lexeme} {indents : List Indentation} : ¬ Tokenless rest →
      indentLexemes width state.indents = .ok (lexemes, indents) →
      Begun fuel state width rest (lexemes.map (LexState.token { state with line }) ++
        scanFrom fuel false { state with line, indents } rest)

theorem Faultless.begun (sound : Faultless (scanFrom (fuel + 1) true state chars)) :
    ∃ width joined rest, measureIndent ⟨0, 0⟩ 0 0 chars = .ok (width, joined, rest) ∧
      Begun fuel state width rest (scanFrom (fuel + 1) true state chars) := by
  unfold scanFrom beginLine at sound ⊢
  cases measured : measureIndent ⟨0, 0⟩ 0 0 chars with
  | error fault =>
    rw [measured] at sound
    cases sound
  | ok result =>
    obtain ⟨width, joined, rest⟩ := result
    rw [measured] at sound
    refine ⟨width, joined, rest, rfl, ?_⟩
    by_cases empty : Tokenless rest
    · obtain ⟨line, skipped⟩ := blankLine?_of_tokenless { state with line := state.line + joined } empty
      simp only [if_pos (show rest.head? = some '#' ∨ rest.head? = some '\n' from empty), skipped]
      exact .tokenless line empty
    · simp only [if_neg (show ¬ (rest.head? = some '#' ∨ rest.head? = some '\n') from empty)] at sound ⊢
      cases indented : indentLexemes width state.indents with
      | error fault =>
        simp only [indented] at sound
        cases sound
      | ok result =>
        obtain ⟨lexemes, indents⟩ := result
        simp only [blankLine?_of_not_tokenless _ empty]
        exact .line _ empty indented

end Rounds

/-! ## The end of a text -/

/-- Nothing is left, or blanks up to the end of a line. -/
def Spent (chars : List Char) : Prop := chars = [] ∨ Trailing chars

theorem Trailing.tail_spent {c : Char} {rest : List Char} (trailing : Trailing (c :: rest)) : Spent rest := by
  cases rest with
  | nil => exact Or.inl rfl
  | cons d more => exact Or.inr (trailing.suffix (List.suffix_cons c _) nofun)

def closing (indents : List Indentation) : List Token :=
  match indentLexemes ⟨0, 0⟩ indents with
  | .ok (lexemes, _) => lexemes.map (⟨·, 0, 0⟩) ++ [⟨.endOfSource, 0, 0⟩]
  | .error _ => []

section Measures

variable {width width' measured measured' : Indentation} {fixed fixed' joined joined' lines lines' : Nat}
  {chars clipped rest left : List Char}

theorem measureIndent_cons {c : Char} (no_space : isSpace c = false) (no_slash : c ≠ '\\')
    (rest : List Char) : measureIndent width fixed joined (c :: rest) =
      .ok (if fixed = 0 then width else ⟨fixed, fixed⟩, joined, c :: rest) := by
  simp only [isSpace, decide_eq_false_iff_not, not_or] at no_space
  rw [measureIndent.eq_6]
  all_goals
    intros
    simp_all

theorem measureIndent_space {c : Char} (space : isSpace c = true) :
    ∃ widen : Indentation → Indentation, ∀ width fixed joined rest,
      measureIndent width fixed joined (c :: rest) = measureIndent (widen width) fixed joined rest := by
  rcases of_decide_eq_true space with rfl | rfl | rfl
  · exact ⟨fun width => ⟨width.columns + 1, width.plain + 1⟩, fun _ _ _ _ => rfl⟩
  · exact ⟨fun width => ⟨(width.columns / 8 + 1) * 8, width.plain + 1⟩, fun _ _ _ _ => rfl⟩
  · exact ⟨fun _ => ⟨0, 0⟩, fun _ _ _ _ => rfl⟩

theorem measureIndent_slash
    (found : measureIndent width fixed joined ('\\' :: chars) = .ok (measured, lines, rest)) :
    ∃ more, chars = '\n' :: more ∧ more ≠ [] ∧
      measureIndent width (if fixed = 0 then width.columns else fixed) (joined + 1) more =
        .ok (measured, lines, rest) := by
  cases chars with
  | nil => cases found
  | cons c more =>
    by_cases feed : c = '\n'
    · subst feed
      rw [measureIndent] at found
      split at found
      · cases found
      · next nonempty => exact ⟨more, rfl, fun none_left => nonempty (none_left ▸ rfl), found⟩
    · rw [measureIndent] at found
      · cases found
      · exact fun others same => feed (List.cons.inj same).1

theorem isSpace_of_measureIndent
    (found : measureIndent width fixed joined chars = .ok (measured, lines, rest))
    {c : Char} (first : rest.head? = some c) : isSpace c = false := by
  fun_induction measureIndent width fixed joined chars with
  | case1 _ _ _ _ ih => exact ih found
  | case2 _ _ _ _ ih => exact ih found
  | case3 _ _ _ _ ih => exact ih found
  | case4 => cases found
  | case5 _ _ _ _ _ ih => exact ih found
  | case6 => cases found
  | case7 width fixed joined others no_blank no_tab no_feed =>
    cases found
    obtain ⟨more, rfl⟩ := List.head?_eq_some_iff.mp first
    refine decide_eq_false ?_
    rintro (rfl | rfl | rfl)
    · exact no_blank more rfl
    · exact no_tab more rfl
    · exact no_feed more rfl

/-- Blanks are measured up to one that is no space. -/
theorem measureIndent_trailing (trailing : Trailing chars) :
    ∃ measured rest, measureIndent width fixed joined chars = .ok (measured, joined, rest) ∧
      rest <:+ chars ∧ Trailing rest := by
  induction chars generalizing width with
  | nil => cases trailing.ended
  | cons c chars ih =>
    have blank := trailing.blank c List.mem_cons_self
    cases space : isSpace c with
    | false =>
      rw [measureIndent_cons space (Text.ne_of_isBlank blank (by decide))]
      exact ⟨_, _, rfl, List.suffix_rfl, trailing⟩
    | true =>
      have inside : chars ≠ [] := by
        rintro rfl
        cases trailing.ended
        cases space
      obtain ⟨widen, same⟩ := measureIndent_space space
      rw [same]
      obtain ⟨measured, rest, found, later, ends⟩ :=
        @ih (widen width) (trailing.suffix (List.suffix_cons c chars) inside)
      exact ⟨measured, rest, found, later.trans (List.suffix_cons c chars), ends⟩

theorem measureIndent_at_end (trailing : Trailing chars)
    (here : measureIndent width fixed joined chars = .ok (measured, lines, rest))
    (there : measureIndent width' fixed' joined' ['\n'] = .ok (measured', lines', left)) :
    Reaches chars ['\n'] rest left ∧ Trailing rest ∧ left = ['\n'] := by
  obtain ⟨_, _, found, later, ends⟩ := measureIndent_trailing trailing
  rw [found] at here
  cases here
  rw [measureIndent_cons (by decide) (by decide)] at there
  cases there
  exact ⟨⟨.tail ends, later, List.suffix_rfl⟩, ends, rfl⟩

/-- The indentations of the two texts are as wide, unless the line is one of the blanks at their ends. -/
theorem measureIndent_clipped (ends : Clipped chars clipped)
    (here : measureIndent width fixed joined chars = .ok (measured, lines, rest))
    (there : measureIndent width' fixed' joined' clipped = .ok (measured', lines', left)) :
    Reaches chars clipped rest left ∧ (width = width' → fixed = fixed' →
      measured = measured' ∨ Trailing rest ∧ left = ['\n']) := by
  -- a backslash and the line end behind it are taken at once, so the induction is on the length
  induction size : chars.length using Nat.strongRecOn generalizing
    chars clipped width width' fixed fixed' joined joined' with
  | ind size ih =>
    subst size
    cases ends with
    | tail trailing =>
      obtain ⟨reaches, ended⟩ := measureIndent_at_end trailing here there
      exact ⟨reaches, fun _ _ => Or.inr ended⟩
    | @cons c chars clipped ends =>
      cases space : isSpace c with
      | true =>
        obtain ⟨widen, same⟩ := measureIndent_space space
        rw [same] at here there
        obtain ⟨reaches, widths⟩ := ih chars.length (Nat.lt_add_one _) ends here there rfl
        exact ⟨reaches.cons c c, fun alike => widths (by rw [alike])⟩
      | false =>
        by_cases slash : c = '\\'
        · subst slash
          obtain ⟨more, rfl, _, here⟩ := measureIndent_slash here
          obtain ⟨others, rfl, some_left, there⟩ := measureIndent_slash there
          cases ends with
          | tail trailing => exact absurd rfl some_left
          | cons _ ends =>
            have shorter : more.length < ('\\' :: '\n' :: more).length := by
              rw [List.length_cons, List.length_cons]
              omega
            obtain ⟨reaches, widths⟩ := ih more.length shorter ends here there rfl
            exact ⟨(reaches.cons _ _).cons _ _, fun same fix => widths same (by rw [same, fix])⟩
        · rw [measureIndent_cons space slash] at here there
          cases here
          cases there
          exact ⟨.refl (.cons c ends), fun same fix => Or.inl (by rw [same, fix])⟩

end Measures

section Ends

variable {fuel : Nat} {state : LexState} {chars : List Char}

/-- A blank that is no space can only be the end of a line, which is skipped. -/
theorem Begun.lineEnd {c : Char} {more : List Char} {width : Indentation} {tokens : List Token}
    (begun : Begun (fuel + 1) state width (c :: more) tokens) (sound : Faultless tokens)
    (blank : isBlank c = true) (no_space : isSpace c = false) :
    c = '\n' ∧ ∃ line, tokens = scanFrom (fuel + 1) true { state with line } more := by
  cases begun with
  | tokenless line empty =>
    rcases empty with comment | feed
    · cases comment
      cases blank
    · cases feed
      exact ⟨rfl, line, rfl⟩
  | line line visible indented =>
    have no_feed : c ≠ '\n' := by
      rintro rfl
      exact visible (Or.inr rfl)
    have quiet := sound.append.2.step
    rw [step_of_isBlank blank no_space no_feed] at quiet
    cases quiet

theorem closing_of_begun {tokens : List Token} (begun : Begun (fuel + 1) state ⟨0, 0⟩ [] tokens)
    (outside : state.brackets = []) : tokens.map Token.unplaced = closing state.indents := by
  cases begun with
  | tokenless line empty => rcases empty with comment | feed <;> contradiction
  | line line visible indented =>
    simp only [closing, indented, scanFrom, step, outside, List.map_append, List.map_map]
    rfl

/-- At the start of a line with nothing but blanks to come, the indentations are closed. -/
theorem scanFrom_spent (spent : Spent chars) (outside : state.brackets = [])
    (enough : 2 * chars.length + 2 ≤ fuel) (sound : Faultless (scanFrom fuel true state chars)) :
    (scanFrom fuel true state chars).map Token.unplaced = closing state.indents := by
  induction fuel generalizing state chars with
  | zero => omega
  | succ fuel ih =>
    obtain ⟨width, joined, rest, measured, begun⟩ := sound.begun
    obtain ⟨fuel, rfl⟩ : ∃ less, fuel = less + 1 := ⟨fuel - 1, by omega⟩
    rcases spent with rfl | trailing
    · cases measured
      exact closing_of_begun begun outside
    · obtain ⟨_, _, found, later, ends⟩ := measureIndent_trailing trailing
      rw [measured] at found
      cases found
      obtain ⟨c, more, rfl, blank⟩ := ends.exists_cons
      obtain ⟨rfl, line, same⟩ := begun.lineEnd sound blank (isSpace_of_measureIndent measured rfl)
      have shorter := later.length_le
      rw [List.length_cons] at shorter
      rw [same] at sound ⊢
      exact ih ends.tail_spent outside (by omega) sound

theorem scanFrom_lineEnd (outside : state.brackets = []) (rest : List Char) :
    scanFrom (fuel + 1) false state ('\n' :: rest) =
      state.token .lineEnd :: scanFrom fuel true (state.afterLineEnd rest) rest := by
  simp only [scanFrom, step, outside]

theorem scanFrom_joined {bracket : Bracket} {outer : List Bracket} (opened : state.brackets = bracket :: outer)
    (rest : List Char) : scanFrom (fuel + 1) false state ('\n' :: rest) =
      scanFrom fuel false (state.afterLineEnd rest) rest := by
  simp only [scanFrom, step, opened]

theorem scanFrom_space {c : Char} (space : isSpace c = true) (rest : List Char) :
    scanFrom (fuel + 1) false state (c :: rest) = scanFrom fuel false state rest := by
  rcases of_decide_eq_true space with rfl | rfl | rfl <;> rfl

theorem brackets_of_ended (sound : Faultless (scanFrom (fuel + 1) false state [])) : state.brackets = [] := by
  cases opened : state.brackets with
  | nil => rfl
  | cons bracket outer =>
    have stopped : step state [] = .stop state.endFault := by simp only [step, opened]
    have fault := sound.step
    rw [stopped, isFault_endFault] at fault
    cases fault

/-- Inside a line before its end, with nothing but blanks to come. No bracket is open there. -/
theorem scanFrom_trailing (trailing : Trailing chars) (enough : 2 * chars.length + 1 ≤ fuel)
    (sound : Faultless (scanFrom fuel false state chars)) :
    state.brackets = [] ∧ (scanFrom fuel false state chars).map Token.unplaced =
      ⟨.lineEnd, 0, 0⟩ :: closing state.indents := by
  induction fuel generalizing state chars with
  | zero => omega
  | succ fuel ih =>
    obtain ⟨c, rest, rfl, blank⟩ := trailing.exists_cons
    rw [List.length_cons] at enough
    by_cases feed : c = '\n'
    · subst feed
      cases opened : state.brackets with
      | nil =>
        rw [scanFrom_lineEnd opened] at sound ⊢
        have closed := scanFrom_spent trailing.tail_spent (by simp [opened]) (by omega) sound.tail
        refine ⟨rfl, ?_⟩
        rw [List.map_cons, closed, LexState.afterLineEnd_indents]
        simp [LexState.token, Token.unplaced, opened]
      | cons bracket outer =>
        -- the brackets stay open, which they cannot up to the end
        rw [scanFrom_joined opened] at sound
        have closed : (state.afterLineEnd rest).brackets = [] := by
          rcases trailing.tail_spent with rfl | later
          · obtain ⟨fuel, rfl⟩ : ∃ less, fuel = less + 1 := ⟨fuel - 1, by omega⟩
            exact brackets_of_ended sound
          · exact (ih later (by omega) sound).1
        rw [LexState.afterLineEnd_brackets, opened] at closed
        cases closed
    · cases space : isSpace c with
      | false =>
        have quiet := sound.step
        rw [step_of_isBlank blank space feed] at quiet
        cases quiet
      | true =>
        have later : Trailing rest := trailing.tail_spent.resolve_left (by
          rintro rfl
          exact feed (Option.some.inj trailing.ended))
        rw [scanFrom_space space] at sound ⊢
        exact ih later (by omega) sound

end Ends

end Refactory.Source
