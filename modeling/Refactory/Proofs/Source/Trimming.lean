import Refactory.Proofs.Source.Reading
import Refactory.Proofs.Source.Rounds
import Refactory.Proofs.Text.Lines

/-! Blanks around a program.

Two runs of the lexer, on a text and on what trimming leaves of it, go side by side: from the first line
with tokens up to the blanks at the end they take the same steps, and at the end both close the open
indentations. So where both texts are programs they have the same tree.
-/

set_option autoImplicit false

namespace Refactory.Source

open Text (isBlank AllBlank)

/-! ## Two runs side by side -/

/-- What is left of the two texts. At the start of a line both may be at their ends. -/
def Meets (start : Bool) (chars clipped : List Char) : Prop :=
  Clipped chars clipped ∨ start = true ∧ Spent chars ∧ Spent clipped

/-- Runs that have so much fuel give the same tokens, wherever they stand in the two texts. -/
def RunsAlike (fuel fuel' : Nat) : Prop :=
  ∀ (start : Bool) {state other : LexState} {chars clipped : List Char}, state.Alike other →
    (start = true → state.brackets = []) → Meets start chars clipped →
    2 * chars.length + start.toNat + 1 ≤ fuel → 2 * clipped.length + start.toNat + 1 ≤ fuel' →
    Faultless (scanFrom fuel start state chars) → Faultless (scanFrom fuel' start other clipped) →
    (scanFrom fuel start state chars).map Token.unplaced =
      (scanFrom fuel' start other clipped).map Token.unplaced

section Runs

variable {fuel fuel' : Nat} {state other : LexState} {chars clipped rest left : List Char}

theorem lineAfter_meets (ends : Clipped chars clipped) :
    Meets true (lineAfter chars) (lineAfter clipped) := by
  have later := (comment_clipped ends).ends
  unfold lineAfter
  generalize chars.dropWhile (· != '\n') = here at later
  generalize clipped.dropWhile (· != '\n') = there at later
  cases later with
  | tail trailing =>
    obtain ⟨c, more, rfl, _⟩ := trailing.exists_cons
    exact Or.inr ⟨rfl, trailing.tail_spent, Or.inl rfl⟩
  | cons c ends => exact Or.inl ends

theorem length_lineAfter (empty : Tokenless chars) : (lineAfter chars).length + 1 ≤ chars.length := by
  have shorter := (List.dropWhile_suffix (l := chars) (· != '\n')).length_le
  have nonempty : 0 < chars.length := by
    cases chars with
    | nil => exact absurd empty (by simp [Tokenless])
    | cons c more => exact Nat.succ_pos _
  rw [lineAfter, List.length_drop]
  omega

/-- Two lines that are clipped alike after their indentations, if these open and close the same. -/
theorem begun_alike (later : RunsAlike (fuel + 1) (fuel' + 1)) (alike : state.Alike other)
    (outside : state.brackets = []) (ends : Clipped rest left)
    (enough : 2 * rest.length + 1 ≤ fuel + 1) (enough' : 2 * left.length + 1 ≤ fuel' + 1)
    (no_space : ∀ c, rest.head? = some c → isSpace c = false) {width width' : Indentation}
    {tokens tokens' : List Token} (here : Begun (fuel + 1) state width rest tokens)
    (there : Begun (fuel' + 1) other width' left tokens')
    (indented : ¬ Tokenless left → indentLexemes width state.indents = indentLexemes width' state.indents)
    (sound : Faultless tokens) (sound' : Faultless tokens') :
    tokens.map Token.unplaced = tokens'.map Token.unplaced := by
  cases ends with
  | tail trailing =>
    obtain ⟨c, more, rfl, blank⟩ := trailing.exists_cons
    obtain ⟨rfl, line, rfl⟩ := here.lineEnd sound blank (no_space c rfl)
    obtain ⟨_, line', rfl⟩ := there.lineEnd sound' (by decide) (by decide)
    rw [List.length_cons] at enough
    refine later true (alike.withLines line line') (fun _ => outside) (Or.inr ⟨rfl, trailing.tail_spent, Or.inl rfl⟩)
      ?_ ?_ sound sound'
    · simp only [Bool.toNat_true]
      omega
    · simp only [Bool.toNat_true, List.length_cons, List.length_nil] at enough' ⊢
      omega
  | @cons c rest left ends =>
    cases here with
    | tokenless line empty =>
      cases there with
      | tokenless line' empty' =>
        have shorter := length_lineAfter empty
        have shorter' := length_lineAfter empty'
        refine later true (alike.withLines line line') (fun _ => outside) (lineAfter_meets (.cons c ends))
          ?_ ?_ sound sound'
        · simp only [Bool.toNat_true]
          omega
        · simp only [Bool.toNat_true]
          omega
      | line line' visible => exact absurd empty visible
    | @line line lexemes indents visible opened =>
      cases there with
      | tokenless line' empty' => exact absurd empty' visible
      | line line' visible' opened' =>
        rw [indented visible', alike.indents, opened'] at opened
        cases opened
        have same : LexState.Alike { state with line, indents } { other with line := line', indents } :=
          ⟨alike.brackets, rfl⟩
        have continued := later false same nofun (Or.inl (.cons c ends)) enough enough' sound.append.2
          sound'.append.2
        rw [List.map_append, List.map_append, continued, List.map_map, List.map_map]
        congr 1
        exact List.map_congr_left fun lexeme _ => (alike.withLines line line').token lexeme

/-- Inside a line the two runs take a step alike, and close alike at the blanks at the end. -/
theorem inside_alike (later : RunsAlike fuel fuel') (alike : state.Alike other) (ends : Clipped chars clipped)
    (enough : 2 * chars.length + 1 ≤ fuel + 1) (enough' : 2 * clipped.length + 1 ≤ fuel' + 1)
    (sound : Faultless (scanFrom (fuel + 1) false state chars))
    (sound' : Faultless (scanFrom (fuel' + 1) false other clipped)) :
    (scanFrom (fuel + 1) false state chars).map Token.unplaced =
      (scanFrom (fuel' + 1) false other clipped).map Token.unplaced := by
  cases ends with
  | tail trailing =>
    rw [(scanFrom_trailing trailing enough sound).2,
      (scanFrom_trailing trailing_lineEnd enough' sound').2, alike.indents]
  | @cons c chars clipped ends =>
    have steps := step_alike alike ends sound.step sound'.step
    simp only [List.length_cons] at enough enough'
    have next (start : Bool) {after after' : LexState} {rest left : List Char} (same : after.Alike after')
        (closed : start = true → after.brackets = []) (reaches : Reaches chars clipped rest left)
        (sound : Faultless (scanFrom fuel start after rest))
        (sound' : Faultless (scanFrom fuel' start after' left)) :
        (scanFrom fuel start after rest).map Token.unplaced =
          (scanFrom fuel' start after' left).map Token.unplaced := by
      have shorter := reaches.first.length_le
      have shorter' := reaches.second.length_le
      have entry := Bool.toNat_le start
      exact later start same closed (Or.inl reaches.ends) (by omega) (by omega) sound sound'
    have open_line {after : LexState} (start : false = true) : after.brackets = [] :=
      absurd start Bool.false_ne_true
    simp only [scanFrom] at sound sound' ⊢
    generalize step state (c :: chars) = here at *
    generalize step other (c :: clipped) = there at *
    cases steps with
    | token same onward reaches =>
      rw [List.map_cons, List.map_cons, same, next false onward open_line reaches sound.tail sound'.tail]
    | skip onward reaches => exact next false onward open_line reaches sound sound'
    | @lineEnd _ _ rest left same closed reaches =>
      have still : (state.afterLineEnd rest).brackets = [] := by rw [LexState.afterLineEnd_brackets, closed]
      rw [List.map_cons, List.map_cons, same,
        next true (alike.afterLineEnd rest left) (fun _ => still) reaches sound.tail sound'.tail]

theorem start_alike (later : RunsAlike fuel fuel') (alike : state.Alike other) (outside : state.brackets = [])
    (ends : Clipped chars clipped) (enough : 2 * chars.length + 2 ≤ fuel + 1)
    (enough' : 2 * clipped.length + 2 ≤ fuel' + 1) (sound : Faultless (scanFrom (fuel + 1) true state chars))
    (sound' : Faultless (scanFrom (fuel' + 1) true other clipped)) :
    (scanFrom (fuel + 1) true state chars).map Token.unplaced =
      (scanFrom (fuel' + 1) true other clipped).map Token.unplaced := by
  obtain ⟨width, joined, rest, measured, here⟩ := sound.begun
  obtain ⟨width', joined', left, measured', there⟩ := sound'.begun
  obtain ⟨reaches, widths⟩ := measureIndent_clipped ends measured measured'
  have shorter := reaches.first.length_le
  have shorter' := reaches.second.length_le
  obtain ⟨fuel, rfl⟩ : ∃ less, fuel = less + 1 := ⟨fuel - 1, by omega⟩
  obtain ⟨fuel', rfl⟩ : ∃ less, fuel' = less + 1 := ⟨fuel' - 1, by omega⟩
  refine begun_alike later alike outside reaches.ends (by omega) (by omega)
    (fun c => isSpace_of_measureIndent measured) here there ?_ sound sound'
  intro visible
  rcases widths rfl rfl with same | ⟨_, ended⟩
  · rw [same]
  · exact absurd (Or.inr (by rw [ended]; rfl)) visible

/-- The two runs take the same steps up to the blanks at the end, and then close the same. -/
theorem runsAlike (fuel fuel' : Nat) : RunsAlike fuel fuel' := by
  induction fuel generalizing fuel' with
  | zero =>
    intro start state other chars clipped _ _ _ enough
    omega
  | succ fuel ih =>
    intro start state other chars clipped alike outside meets enough enough' sound sound'
    obtain ⟨fuel', rfl⟩ : ∃ less, fuel' = less + 1 := ⟨fuel' - 1, by omega⟩
    rcases meets with ends | ⟨rfl, spent, spent'⟩
    · cases start with
      | true => exact start_alike (ih fuel') alike (outside rfl) ends enough enough' sound sound'
      | false => exact inside_alike (ih fuel') alike ends enough enough' sound sound'
    · rw [scanFrom_spent spent (outside rfl) enough sound,
        scanFrom_spent spent' (alike.outside (outside rfl)) enough' sound', alike.indents]

end Runs

/-! ## Blanks before the first line -/

section Lead

variable {fuel fuel' : Nat} {state other : LexState} {lead chars clipped : List Char}

theorem measureIndent_lead (blanks : AllBlank lead) (width : Indentation) :
    (∃ wider, measureIndent width 0 0 (lead ++ chars) = measureIndent wider 0 0 chars) ∨
      ∃ measured c more, c :: more <:+ lead ∧ isSpace c = false ∧
        measureIndent width 0 0 (lead ++ chars) = .ok (measured, 0, c :: more ++ chars) := by
  induction lead generalizing width with
  | nil => exact Or.inl ⟨width, rfl⟩
  | cons c lead ih =>
    have blank := blanks c List.mem_cons_self
    cases space : isSpace c with
    | false =>
      refine Or.inr ⟨width, c, lead, List.suffix_rfl, space, ?_⟩
      exact measureIndent_cons space (Text.ne_of_isBlank blank (by decide)) (lead ++ chars)
    | true =>
      obtain ⟨widen, same⟩ := measureIndent_space space
      rw [List.cons_append, same]
      refine (ih (fun d member => blanks d (List.mem_cons_of_mem c member)) (widen width)).imp_right ?_
      rintro ⟨measured, d, more, later, no_space, found⟩
      exact ⟨measured, d, more, later.trans (List.suffix_cons c lead), no_space, found⟩

theorem indentLexemes_of_unindented {width : Indentation} {lexemes : List Lexeme}
    {indents : List Indentation} (found : indentLexemes width [⟨0, 0⟩] = .ok (lexemes, indents))
    (plain : lexemes.head? ≠ some .indent) : lexemes = [] ∧ indents = [⟨0, 0⟩] := by
  unfold indentLexemes at found
  simp only at found
  split at found
  · split at found
    · cases found
      exact ⟨rfl, rfl⟩
    · cases found
  · rw [if_pos (by omega)] at found
    split at found
    · cases found
    · split at found
      · cases found
      · cases found
        exact absurd rfl plain

theorem Begun.unindented {width : Indentation} {rest : List Char} {tokens : List Token}
    (begun : Begun fuel state width rest tokens) (visible : ¬ Tokenless rest)
    (outermost : state.indents = [⟨0, 0⟩]) (plain : (tokens.map Token.lexeme).head? ≠ some .indent) :
    indentLexemes width state.indents = .ok ([], [⟨0, 0⟩]) := by
  cases begun with
  | tokenless line empty => exact absurd empty visible
  | @line line lexemes indents _ indented =>
    have unindented : lexemes.head? ≠ some .indent := by
      intro first
      obtain ⟨others, rfl⟩ := List.head?_eq_some_iff.mp first
      exact plain rfl
    have opened := indented
    rw [outermost] at opened
    obtain ⟨rfl, rfl⟩ := indentLexemes_of_unindented opened unindented
    exact indented

theorem Clipped.not_tokenless {rest left : List Char} (ends : Clipped rest left)
    (visible : ¬ Tokenless left) : ¬ Tokenless rest := by
  cases ends with
  | tail => exact absurd (Or.inr rfl) visible
  | cons c ends => exact visible

/-- Blank lines before a program, and blanks before its first line, change nothing. -/
theorem scanFrom_lead (blanks : AllBlank lead) (ends : Clipped chars clipped) (alike : state.Alike other)
    (outside : state.brackets = []) (outermost : state.indents = [⟨0, 0⟩])
    (enough : 2 * (lead ++ chars).length + 2 ≤ fuel) (enough' : 2 * clipped.length + 2 ≤ fuel')
    (sound : Faultless (scanFrom fuel true state (lead ++ chars)))
    (sound' : Faultless (scanFrom fuel' true other clipped))
    (plain : ((scanFrom fuel true state (lead ++ chars)).map Token.lexeme).head? ≠ some .indent)
    (plain' : ((scanFrom fuel' true other clipped).map Token.lexeme).head? ≠ some .indent) :
    (scanFrom fuel true state (lead ++ chars)).map Token.unplaced =
      (scanFrom fuel' true other clipped).map Token.unplaced := by
  -- on the rounds of the first run, each of which skips a blank line
  induction fuel generalizing state lead with
  | zero => omega
  | succ fuel ih =>
    obtain ⟨fuel, rfl⟩ : ∃ less, fuel = less + 1 := ⟨fuel - 1, by omega⟩
    obtain ⟨width, joined, rest, measured, here⟩ := sound.begun
    rcases measureIndent_lead blanks ⟨0, 0⟩ with ⟨wider, same⟩ | ⟨_, c, more, later, no_space, found⟩
    · obtain ⟨fuel', rfl⟩ : ∃ less, fuel' = less + 2 := ⟨fuel' - 2, by omega⟩
      obtain ⟨width', joined', left, measured', there⟩ := sound'.begun
      rw [same] at measured
      obtain ⟨reaches, _⟩ := measureIndent_clipped ends measured measured'
      have shorter := reaches.first.length_le
      have shorter' := reaches.second.length_le
      rw [List.length_append] at enough
      refine begun_alike (runsAlike (fuel + 1) (fuel' + 1)) alike outside reaches.ends (by omega) (by omega)
        (fun c => isSpace_of_measureIndent measured) here there ?_ sound sound'
      intro visible
      rw [here.unindented (reaches.ends.not_tokenless visible) outermost plain, alike.indents,
        there.unindented visible (alike.indents ▸ outermost) plain']
    · rw [measured] at found
      cases found
      have blank := blanks c (later.subset List.mem_cons_self)
      obtain ⟨rfl, line, same⟩ := here.lineEnd sound blank no_space
      have shorter := later.length_le
      rw [List.length_cons] at shorter
      rw [List.length_append] at enough
      rw [same] at sound plain ⊢
      refine ih (fun d member => blanks d (later.subset (List.mem_cons_of_mem _ member)))
        (alike.withLines line other.line) outside outermost ?_ sound plain
      rw [List.length_append]
      omega

end Lead

/-! ## Texts and programs -/

theorem prepare_ends (chars : List Char) : ∃ final, (final = [] ∨ final = ['\n']) ∧
    prepare chars = Text.unifyLineEnds chars ++ final ∧ (prepare chars).getLast? = some '\n' := by
  simp only [prepare]
  split
  · exact ⟨['\n'], Or.inr rfl, rfl, by simp⟩
  · next before alone found =>
    refine ⟨[], Or.inl rfl, (List.append_nil _).symm, ?_⟩
    have no_return : before.reverse.getLastD '\n' ≠ '\r' := by
      cases before with
      | nil => decide
      | cons c more =>
        rw [List.reverse_cons, List.getLastD_concat]
        exact fun same => alone more (by rw [same])
    rw [List.reverse_eq_iff, List.reverse_cons] at found
    subst found
    rw [Text.unifyLineEnds_concat, Text.unifyLineEnd, if_neg (by decide), if_neg fun both => no_return both.2]
    simp
  · next found =>
    refine ⟨[], Or.inl rfl, (List.append_nil _).symm, ?_⟩
    rw [List.reverse_eq_iff, List.reverse_cons] at found
    subst found
    rw [Text.unifyLineEnds_concat]
    simp [Text.unifyLineEnd]
  · exact ⟨['\n'], Or.inr rfl, rfl, by simp⟩

theorem Clipped.append {chars clipped : List Char} (ends : Clipped chars clipped) (before : List Char) :
    Clipped (before ++ chars) (before ++ clipped) := by
  induction before with
  | nil => exact ends
  | cons c before ih => exact .cons c ih

theorem trailing_of_ended {before blanks : List Char} {c : Char} (solid : isBlank c = false)
    (all : AllBlank blanks) (ended : (before ++ c :: blanks).getLast? = some '\n') : Trailing blanks := by
  refine ⟨all, ?_⟩
  cases blanks with
  | nil =>
    rw [List.getLast?_concat] at ended
    cases ended
    cases solid
  | cons d more => rwa [List.getLast?_append, List.getLast?_cons_cons, List.getLast?_cons, Option.some_or,
      ← List.getLast?_cons] at ended

theorem prepare_trimChars (chars : List Char) :
    Trailing (prepare chars) ∧ Trailing (prepare (Text.trimChars chars)) ∨
      ∃ lead rest, AllBlank lead ∧ prepare chars = lead ++ rest ∧
        Clipped rest (prepare (Text.trimChars chars)) := by
  obtain ⟨lead, trail, leads, trails, whole⟩ := Text.trimChars_between chars
  have solid := Text.solid_trimChars chars
  obtain ⟨final, finals, prepared, ended⟩ := prepare_ends chars
  obtain ⟨final', finals', prepared', ended'⟩ := prepare_ends (Text.trimChars chars)
  have blank_final {final : List Char} (finals : final = [] ∨ final = ['\n']) : AllBlank final := by
    rcases finals with rfl | rfl
    · simp [AllBlank]
    · exact trailing_lineEnd.blank
  generalize Text.trimChars chars = core at *
  rcases List.eq_nil_or_concat core with rfl | ⟨init, c, rfl⟩
  · have blanks : AllBlank chars := by
      rw [whole, List.append_nil]
      exact leads.append trails
    refine Or.inl ⟨⟨?_, ended⟩, trailing_lineEnd⟩
    rw [prepared, Text.unifyLineEnds_eq]
    exact (Text.allBlank_unifyAfter blanks).append (blank_final finals)
  · rw [List.concat_eq_append] at *
    have last : isBlank c = false := solid.last c (by simp)
    have border : (init ++ [c] ++ trail).head? ≠ some '\n' := by
      intro first
      have inside : (init ++ [c]).head? = some '\n' := by cases init <;> simpa using first
      exact absurd (solid.first '\n' inside) (by decide)
    let blanks := Text.unifyAfter ((init ++ [c]).getLastD '\n') trail ++ final
    have here : prepare chars = Text.unifyLineEnds lead ++ (Text.unifyLineEnds init ++ c :: blanks) := by
      rw [prepared, whole, List.append_assoc, Text.unifyLineEnds_append border,
        Text.unifyLineEnds_eq (_ ++ trail), Text.unifyAfter_append, ← Text.unifyLineEnds_eq,
        Text.unifyLineEnds_solid init last]
      simp [blanks]
    have there : prepare (init ++ [c]) = Text.unifyLineEnds init ++ c :: final' := by
      rw [prepared', Text.unifyLineEnds_solid init last, List.append_assoc]
      rfl
    have trailing : Trailing blanks := by
      rw [here, ← List.append_assoc] at ended
      exact trailing_of_ended last ((Text.allBlank_unifyAfter trails).append (blank_final finals)) ended
    have trailing' : Trailing final' := by
      rw [there] at ended'
      exact trailing_of_ended last (blank_final finals') ended'
    refine Or.inr ⟨_, _, Text.allBlank_unifyAfter leads, here, ?_⟩
    rw [there]
    rcases finals' with rfl | rfl
    · cases trailing'.ended
    · exact (Clipped.cons c (.tail trailing)).append _

theorem Program.ofTokens?_congr {tokens tokens' : List Token}
    (same : tokens.map Token.unplaced = tokens'.map Token.unplaced) :
    Program.ofTokens? tokens = Program.ofTokens? tokens' := by
  have faults (tokens : List Token) :
      tokens.any Token.isFault = (tokens.map Token.unplaced).any Token.isFault := by
    rw [List.any_map]
    rfl
  have fuel (tokens : List Token) : fuelFor tokens = fuelFor (tokens.map Token.unplaced) := by
    rw [fuelFor, fuelFor, List.map_map]
    rfl
  rw [ofTokens?, ofTokens?, faults tokens, faults tokens', fuel tokens, fuel tokens', same]

/-- The tokens have no fault and do not begin with an indentation, as those of every program. -/
structure Readable (tokens : List Token) : Prop where
  sound : Faultless tokens
  plain : (tokens.map Token.lexeme).head? ≠ some .indent

theorem readable_of_spelled {tokens : List Token} {found : Program}
    (spelled : Program.ofTokens? tokens = some found) : Readable tokens := by
  constructor
  · unfold Program.ofTokens? at spelled
    split at spelled
    · cases spelled
    · next sound => exact Bool.eq_false_iff.mpr sound
  · intro first
    cases tokens with
    | nil => cases first
    | cons token rest =>
      rw [Program.ofTokens?_of_indent (Option.some.inj first)] at spelled
      cases spelled

/-- A text and what trimming leaves of it have the same tokens, if both can be read. -/
theorem scan_trimChars {chars : List Char} (whole : Readable (Token.scan chars))
    (trimmed : Readable (Token.scan (Text.trimChars chars))) :
    (Token.scan chars).map Token.unplaced = (Token.scan (Text.trimChars chars)).map Token.unplaced := by
  have alike : LexState.start.Alike LexState.start := ⟨rfl, rfl⟩
  unfold Token.scan LexState.tokens at whole trimmed ⊢
  rcases prepare_trimChars chars with ⟨trailing, trailing'⟩ | ⟨lead, rest, blanks, parts, ends⟩
  · exact runsAlike _ _ true alike (fun _ => rfl) (Or.inr ⟨rfl, Or.inr trailing, Or.inr trailing'⟩)
      (Nat.le_refl _) (Nat.le_refl _) whole.sound trimmed.sound
  · rw [parts] at whole ⊢
    exact scanFrom_lead blanks ends alike rfl rfl (Nat.le_refl _) (Nat.le_refl _) whole.sound trimmed.sound
      whole.plain trimmed.plain

/-- Trimming a program leaves its tree as it is, if it leaves a program at all. -/
theorem parse_trim {text : String} {found kept : Program} (whole : Program.parse text = .ok found)
    (trimmed : Program.parse (Text.trim text) = .ok kept) : kept = found := by
  have here := spelled_of_parse whole
  have there := spelled_of_parse trimmed
  rw [Text.trim, String.toList_ofList] at there
  have same := scan_trimChars (readable_of_spelled here) (readable_of_spelled there)
  rw [Program.ofTokens?_congr same, there] at here
  exact Option.some.inj here

end Refactory.Source
