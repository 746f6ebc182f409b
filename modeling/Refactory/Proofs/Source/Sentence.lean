import Refactory.Proofs.Source.Lexing
import Refactory.Proofs.Source.Reading
import Refactory.Proofs.Text.Lines

/-! A text that begins like a sentence, with two words side by side, is no program. -/

set_option autoImplicit false

namespace Refactory.Source

structure PlainWord (word : List Char) : Prop where
  nonempty : word ≠ []
  letters (c : Char) (member : c ∈ word) : c.isAlpha = true
  free : reservedWords.contains (String.ofList word) = false

theorem ne_of_isAlpha {c other : Char} (letter : c.isAlpha = true) (outside : other.isAlpha = false) :
    c ≠ other := by
  rintro rfl
  rw [letter] at outside
  cases outside

theorem step_letter (state : LexState) {c : Char} {rest : List Char} (letter : c.isAlpha = true) :
    step state (c :: rest) = nameStep state c rest := by
  have bounds := Text.isAlpha_iff.mp letter
  have no_digit : c.isDigit = false := by
    rw [← Bool.not_eq_true, Text.isDigit_iff]
    omega
  have joins : Numeral.mayJoinName c = true := by
    simp [Numeral.mayJoinName, Char.isAlphanum, letter]
  rw [step_cons state (ne_of_isAlpha letter (by decide)) (ne_of_isAlpha letter (by decide)), if_neg,
    if_neg (ne_of_isAlpha letter (by decide)),
    no_digit, joins]
  · rfl
  · simp only [not_or]
    exact ⟨ne_of_isAlpha letter (by decide), ne_of_isAlpha letter (by decide), ne_of_isAlpha letter (by decide)⟩

/-- A word before a character that neither joins it nor opens a literal is a name. -/
theorem step_word (state : LexState) {word : List Char} {c : Char} (plain : PlainWord word)
    (ends : Numeral.mayJoinName c = false) (unquoted : ¬ (c = '\'' ∨ c = '"')) (rest : List Char) :
    ∃ spelling : Spelling, spelling.text = String.ofList word ∧
      step state (word ++ c :: rest) = .token (state.token (.name spelling)) state (c :: rest) := by
  obtain ⟨nonempty, letters, free⟩ := plain
  obtain ⟨first, others, rfl⟩ := List.exists_cons_of_ne_nil nonempty
  have joined : ∀ d ∈ others, Numeral.mayJoinName d = true := by
    intro d member
    simp [Numeral.mayJoinName, Char.isAlphanum, letters d (List.mem_cons_of_mem first member)]
  have taken : (others ++ c :: rest).takeWhile Numeral.mayJoinName = others := by
    rw [List.takeWhile_append_of_pos joined, List.takeWhile_cons_of_neg (by simp [ends]), List.append_nil]
  have left : (others ++ c :: rest).dropWhile Numeral.mayJoinName = c :: rest := by
    rw [List.dropWhile_append_of_pos joined, List.dropWhile_cons_of_neg (by simp [ends])]
  have ascii : (first :: others).all (·.toNat < 128) = true := by
    rw [List.all_eq_true]
    intro d member
    have bounds := Text.isAlpha_iff.mp (letters d member)
    simp only [decide_eq_true_eq]
    omega
  refine ⟨Spelling.ofChars first others, rfl, ?_⟩
  rw [List.cons_append, step_letter state (letters first List.mem_cons_self), nameStep]
  simp only [taken, left, if_neg unquoted, nameLexeme, ascii, if_true]
  have named : reservedWords.contains (Spelling.ofChars first others).text = false := free
  simp only [named, Bool.false_eq_true, if_false]

theorem scanFrom_letter {c : Char} {rest : List Char} (letter : c.isAlpha = true) (fuel : Nat) :
    scanFrom (fuel + 1) true LexState.start (c :: rest) =
      scanFrom fuel false LexState.start (c :: rest) := by
  have measured : measureIndent ⟨0, 0⟩ 0 0 (c :: rest) = .ok (⟨0, 0⟩, 0, c :: rest) := by
    rw [measureIndent.eq_6]
    · rfl
    all_goals
      intros
      rename_i same
      cases same
      revert letter
      decide
  have visible : c ≠ '#' ∧ c ≠ '\n' := ⟨ne_of_isAlpha letter (by decide), ne_of_isAlpha letter (by decide)⟩
  have begun : beginLine LexState.start (c :: rest) = .ok ([], LexState.start, c :: rest) := by
    simp [beginLine, measured, visible, indentLexemes, LexState.start]
  simp [scanFrom, begun, blankLine?, visible]

theorem prepare_words {first second : List Char} {c : Char} (plain : PlainWord first)
    (beside : PlainWord second) (ends : c ≠ '\n' ∧ c ≠ '\r') (rest : List Char) :
    ∃ more, prepare (first ++ ' ' :: (second ++ c :: rest)) = first ++ ' ' :: (second ++ c :: more) := by
  have free : '\r' ∉ first ++ ' ' :: second := by
    simp only [List.mem_append, List.mem_cons, not_or]
    refine ⟨fun member => ?_, by decide, fun member => ?_⟩
    · exact absurd (plain.letters _ member) (by decide)
    · exact absurd (beside.letters _ member) (by decide)
  have begun : Text.unifyLineEnds (first ++ ' ' :: (second ++ c :: rest)) =
      first ++ ' ' :: (second ++ c :: Text.unifyAfter c rest) := by
    have parts : first ++ ' ' :: (second ++ c :: rest) = (first ++ ' ' :: second) ++ c :: rest := by simp
    rw [parts, Text.unifyLineEnds_append (by simp [ends.1]), Text.unifyLineEnds_of_no_return free,
      Text.unifyLineEnds_eq, Text.unifyAfter_cons]
    simp [Text.unifyLineEnd, ends]
  simp only [prepare, begun]
  split
  · exact ⟨Text.unifyAfter c rest ++ ['\n'], by simp⟩
  · exact ⟨_, rfl⟩
  · exact ⟨_, rfl⟩
  · exact ⟨Text.unifyAfter c rest ++ ['\n'], by simp⟩

/-- The tokens of a text that begins with two words begin with two names. -/
theorem scan_words {first second : List Char} {c : Char} (plain : PlainWord first)
    (beside : PlainWord second) (ends : Numeral.mayJoinName c = false) (unquoted : ¬ (c = '\'' ∨ c = '"'))
    (inside : c ≠ '\n' ∧ c ≠ '\r') (rest : List Char) :
    ∃ name other : Spelling, ∃ more, name.text = String.ofList first ∧
      Token.scan (first ++ ' ' :: (second ++ c :: rest)) =
        LexState.start.token (.name name) :: LexState.start.token (.name other) :: more := by
  obtain ⟨more, prepared⟩ := prepare_words plain beside inside rest
  obtain ⟨name, spelled, begun⟩ := step_word LexState.start plain (c := ' ') (by decide) (by decide)
    (second ++ c :: more)
  obtain ⟨other, _, continued⟩ := step_word LexState.start beside ends unquoted more
  have blank : step LexState.start (' ' :: (second ++ c :: more)) =
      .skip LexState.start (second ++ c :: more) := rfl
  -- one round enters the line, and three take the first name, the blank and the second name
  obtain ⟨letter, letters, rfl⟩ := List.exists_cons_of_ne_nil plain.nonempty
  obtain ⟨fuel, enough⟩ : ∃ fuel, 2 * (prepare (letter :: letters ++ ' ' :: (second ++ c :: rest))).length
      + 2 = fuel + 4 := by
    refine ⟨2 * letters.length + 2 * second.length + 2 * more.length + 4, ?_⟩
    simp only [prepared, List.length_append, List.length_cons]
    omega
  refine ⟨name, other, scanFrom fuel false LexState.start (c :: more), spelled, ?_⟩
  rw [Token.scan, LexState.tokens, enough, prepared, List.cons_append,
    scanFrom_letter (plain.letters letter List.mem_cons_self), ← List.cons_append]
  simp only [scanFrom, begun, blank, continued]

/-- Two words side by side, of which the first has no meaning of its own, begin no program. -/
theorem parse_of_words {text : String} {first second rest : List Char} {c : Char}
    (spelled : text.toList = first ++ ' ' :: (second ++ c :: rest)) (plain : PlainWord first)
    (other : first ≠ ['m', 'a', 't', 'c', 'h']) (beside : PlainWord second)
    (ends : Numeral.mayJoinName c = false) (unquoted : ¬ (c = '\'' ∨ c = '"'))
    (inside : c ≠ '\n' ∧ c ≠ '\r') : (Program.parse text).isOk = false := by
  obtain ⟨name, neighbour, more, named, scanned⟩ := scan_words plain beside ends unquoted
    inside rest
  have unmatched : name.text ≠ "match" := by
    rw [named]
    intro same
    exact other (by rw [← String.toList_ofList (l := first), same]; rfl)
  have none_spelled : Program.ofTokens? (Token.scan text.toList) = none := by
    rw [spelled, scanned]
    exact Program.ofTokens?_of_names rfl unmatched rfl
  rw [Program.parse]
  split
  · rfl
  · rw [Program.ofTokens, none_spelled]
    rfl

end Refactory.Source
