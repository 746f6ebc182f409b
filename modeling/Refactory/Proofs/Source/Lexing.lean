import Refactory.Proofs.Source.Numeral
import Refactory.Source.Program

/-! One step of the lexer on two texts that differ in the blanks at their ends only.

The lines of the two texts may be counted from different numbers, so states and tokens are compared
without them.
-/

set_option autoImplicit false

namespace Refactory.Source

open Text (isBlank AllBlank)

theorem step_cons (state : LexState) {c : Char} {rest : List Char} (no_feed : c ≠ '\n')
    (no_slash : c ≠ '\\') : step state (c :: rest) =
      if c = ' ' ∨ c = '\t' ∨ c = '\x0c' then .skip state rest
      else if c = '#' then .skip state (rest.dropWhile (· != '\n'))
      else if c.isDigit then numberStep state (Numeral.scan (c :: rest))
      else if Numeral.mayJoinName c then nameStep state c rest
      else if c = '\'' ∨ c = '"' then stringStep state .text false c rest
      else if c = '.' ∧ rest.head?.any Char.isDigit then
        numberStep state (Numeral.fraction [] rest)
      else markStep state c rest := by
  simp [step, no_slash]

def Step.isFault : Step → Bool
  | .stop last => last.isFault
  | .token .. => false
  | .skip .. => false
  | .lineEnd .. => false

theorem isFault_endFault (state : LexState) : (Step.stop state.endFault).isFault = true := by
  unfold LexState.endFault
  split <;> rfl

@[simp] theorem LexState.afterLineEnd_brackets (state : LexState) (rest : List Char) :
    (state.afterLineEnd rest).brackets = state.brackets := by
  unfold LexState.afterLineEnd
  split <;> rfl

@[simp] theorem LexState.afterLineEnd_indents (state : LexState) (rest : List Char) :
    (state.afterLineEnd rest).indents = state.indents := by
  unfold LexState.afterLineEnd
  split <;> rfl

/-- The states agree but for the lines they have come to. -/
structure LexState.Alike (state other : LexState) : Prop where
  brackets : state.brackets.map Bracket.opening = other.brackets.map Bracket.opening
  indents : state.indents = other.indents

/-- The steps agree but for lines, and go on where the two texts are clipped alike. A line ends outside
brackets only. -/
inductive Step.Alike (state : LexState) (chars clipped : List Char) : Step → Step → Prop where
  | token {token token' : Token} {after after' : LexState} {rest left : List Char} :
      token.unplaced = token'.unplaced → after.Alike after' → Reaches chars clipped rest left →
      Step.Alike state chars clipped (.token token after rest) (.token token' after' left)
  | skip {after after' : LexState} {rest left : List Char} :
      after.Alike after' → Reaches chars clipped rest left →
      Step.Alike state chars clipped (.skip after rest) (.skip after' left)
  | lineEnd {token token' : Token} {rest left : List Char} :
      token.unplaced = token'.unplaced → state.brackets = [] → Reaches chars clipped rest left →
      Step.Alike state chars clipped (.lineEnd token rest) (.lineEnd token' left)

section Parts

variable {state other : LexState} {chars clipped : List Char}

theorem LexState.Alike.token (alike : state.Alike other) (lexeme : Lexeme) :
    (state.token lexeme).unplaced = (other.token lexeme).unplaced := by
  have depth : state.brackets.length = other.brackets.length := by
    simpa using congrArg List.length alike.brackets
  simp [LexState.token, Token.unplaced, depth]

theorem LexState.Alike.outside (alike : state.Alike other) (closed : state.brackets = []) :
    other.brackets = [] := by
  simpa [closed] using alike.brackets.symm

theorem LexState.Alike.withLines (alike : state.Alike other) (line line' : Nat) :
    LexState.Alike { state with line } { other with line := line' } :=
  ⟨alike.brackets, alike.indents⟩

theorem LexState.Alike.afterLineEnd (alike : state.Alike other) (rest left : List Char) :
    (state.afterLineEnd rest).Alike (other.afterLineEnd left) :=
  ⟨by simpa using alike.brackets, by simpa using alike.indents⟩

theorem stringStep_alike (alike : state.Alike other) (ends : Clipped chars clipped) {kind : LiteralKind}
    {raw : Bool} {quote : Char} (solid : isBlank quote = false)
    (sound : (stringStep state kind raw quote chars).isFault = false) :
    Step.Alike state chars clipped (stringStep state kind raw quote chars)
      (stringStep other kind raw quote clipped) := by
  unfold stringStep at sound ⊢
  split at sound
  · cases sound
  · next body lines rest found =>
    obtain ⟨left, again, reaches⟩ := scanQuoted_clipped other.line solid ends found
    rw [again]
    exact .token (alike.token _) (alike.withLines _ _) reaches

theorem numberStep_alike (alike : state.Alike other) {scanned again : Except Fault (Number × List Char)}
    (same : ∀ number rest, scanned = .ok (number, rest) →
      ∃ left, again = .ok (number, left) ∧ Reaches chars clipped rest left)
    (sound : (numberStep state scanned).isFault = false) :
    Step.Alike state chars clipped (numberStep state scanned) (numberStep other again) := by
  unfold numberStep at sound ⊢
  split at sound
  · next number rest =>
    obtain ⟨left, rfl, reaches⟩ := same number rest rfl
    exact .token (alike.token _) alike reaches
  · cases sound

/-- Both texts give the same part to a name, unless blanks beyond ASCII join it. -/
theorem joined_clipped (ends : Clipped chars clipped) :
    (∃ c ∈ chars.takeWhile Numeral.mayJoinName, isBlank c = true) ∨
      chars.takeWhile Numeral.mayJoinName = clipped.takeWhile Numeral.mayJoinName ∧
        Reaches chars clipped (chars.dropWhile Numeral.mayJoinName)
          (clipped.dropWhile Numeral.mayJoinName) := by
  induction ends with
  | tail trailing =>
    obtain ⟨c, rest, rfl, blank⟩ := trailing.exists_cons
    cases joins : Numeral.mayJoinName c with
    | true => exact Or.inl ⟨c, by simp [joins], blank⟩
    | false =>
      refine Or.inr ⟨by simp [joins]; decide, ?_⟩
      rw [List.dropWhile_cons_of_neg (by simp [joins]), List.dropWhile_cons_of_neg (by decide)]
      exact .refl (.tail trailing)
  | @cons c chars clipped ends ih =>
    cases joins : Numeral.mayJoinName c with
    | true =>
      simp only [List.takeWhile_cons_of_pos joins, List.dropWhile_cons_of_pos joins]
      refine ih.imp ?_ ?_
      · rintro ⟨d, member, blank⟩
        exact ⟨d, List.mem_cons_of_mem c member, blank⟩
      · rintro ⟨same, reaches⟩
        exact ⟨by rw [same], reaches.cons c c⟩
    | false =>
      refine Or.inr ⟨by simp [joins], ?_⟩
      rw [List.dropWhile_cons_of_neg (by simp [joins]), List.dropWhile_cons_of_neg (by simp [joins])]
      exact .refl (.cons c ends)

def letters? (first : Char) (chars : List Char) : Option (LiteralKind × Bool) :=
  literalLetters.lookup ((first :: chars.takeWhile Numeral.mayJoinName).map Char.toLower)

theorem nameStep_of_letters {first quote : Char} {after : List Char} {kind : LiteralKind} {raw : Bool}
    (left : chars.dropWhile Numeral.mayJoinName = quote :: after) (quoted : quote = '\'' ∨ quote = '"')
    (letters : letters? first chars = some (kind, raw)) :
    nameStep state first chars = stringStep state kind raw quote after := by
  unfold letters? at letters
  simp only [nameStep, left, if_pos quoted, letters, Option.map_some]

/-- Any other characters that join each other are a name, or spell none. -/
theorem nameStep_of_name {first : Char} (unquoted : letters? first chars = none ∨
      ∀ quote, (chars.dropWhile Numeral.mayJoinName).head? = some quote → ¬ (quote = '\'' ∨ quote = '"')) :
    nameStep state first chars = match nameLexeme first (chars.takeWhile Numeral.mayJoinName) with
      | .ok lexeme => .token (state.token lexeme) state (chars.dropWhile Numeral.mayJoinName)
      | .error fault => .stop (state.faultToken fault state.line true) := by
  unfold nameStep
  cases found : chars.dropWhile Numeral.mayJoinName with
  | nil => rfl
  | cons quote after =>
    rcases unquoted with unlisted | other
    · unfold letters? at unlisted
      cases named : nameLexeme first (chars.takeWhile Numeral.mayJoinName) <;>
        simp only [unlisted, Option.map_none, ite_self, named]
    · have plain := other quote (by rw [found]; rfl)
      cases named : nameLexeme first (chars.takeWhile Numeral.mayJoinName) <;> simp only [if_neg plain, named]

theorem nameStep_of_blank {first c : Char} (member : c ∈ first :: chars.takeWhile Numeral.mayJoinName)
    (blank : isBlank c = true) (joins : Numeral.mayJoinName c = true) :
    (nameStep state first chars).isFault = true := by
  have beyond : ¬ c.toNat < 128 := by
    simpa [Numeral.mayJoinName, Char.isAlphanum, Text.isDigit_of_isBlank blank,
      Text.isAlpha_of_isBlank blank, Text.ne_of_isBlank blank (show isBlank '_' = false by decide)]
      using joins
  have unlisted : letters? first chars = none := by
    have solid : ∀ entry ∈ literalLetters, entry.1.any isBlank = false := by decide
    rw [letters?, List.lookup_eq_none_iff]
    intro entry listed
    rw [bne_iff_ne]
    intro same
    have spelled : c ∈ entry.1 := by
      rw [← same, ← Text.toLower_of_isBlank blank]
      exact List.mem_map_of_mem member
    exact Text.ne_of_isBlank blank (Text.isBlank_of_any (solid entry listed) c spelled) rfl
  have wide : (first :: chars.takeWhile Numeral.mayJoinName).all (·.toNat < 128) = false := by
    rw [List.all_eq_false]
    exact ⟨c, member, by simpa using beyond⟩
  have misspelled : identifierFault? first (chars.takeWhile Numeral.mayJoinName) ≠ none := by
    obtain ⟨start, tail⟩ := Text.isIdentifier_of_isBlank blank
    unfold identifierFault?
    split
    · next begins =>
      rcases List.mem_cons.mp member with rfl | later
      · rw [start] at begins
        cases begins
      · rw [ne_eq, List.find?_eq_none]
        intro sound
        exact sound c later (by simp [tail])
    · exact Option.some_ne_none _
  rw [nameStep_of_name (Or.inl unlisted), nameLexeme, wide]
  cases fault : identifierFault? first (chars.takeWhile Numeral.mayJoinName) with
  | none => exact absurd fault misspelled
  | some d => rfl

theorem Step.Alike.mono {rest left : List Char} {first second : Step} (reaches : Reaches chars clipped rest left)
    (steps : Step.Alike state rest left first second) : Step.Alike state chars clipped first second := by
  cases steps with
  | token same alike far => exact .token same alike (reaches.trans far)
  | skip alike far => exact .skip alike (reaches.trans far)
  | lineEnd same outside far => exact .lineEnd same outside (reaches.trans far)

theorem nameStep_alike (alike : state.Alike other) (ends : Clipped chars clipped) {first : Char}
    (sound : (nameStep state first chars).isFault = false) :
    Step.Alike state chars clipped (nameStep state first chars) (nameStep other first clipped) := by
  rcases joined_clipped ends with ⟨c, member, blank⟩ | ⟨same, reaches⟩
  · have joins : Numeral.mayJoinName c = true := List.all_eq_true.mp List.all_takeWhile c member
    rw [nameStep_of_blank (List.mem_cons_of_mem first member) blank joins] at sound
    cases sound
  have listed : letters? first clipped = letters? first chars := by rw [letters?, letters?, same]
  by_cases literal : ∃ quote entry, (chars.dropWhile Numeral.mayJoinName).head? = some quote ∧
      (quote = '\'' ∨ quote = '"') ∧ letters? first chars = some entry
  · obtain ⟨quote, ⟨kind, raw⟩, first_left, quoted, letters⟩ := literal
    have solid : isBlank quote = false := by rcases quoted with rfl | rfl <;> decide
    obtain ⟨after, rest⟩ := List.head?_eq_some_iff.mp first_left
    have clip := reaches.ends
    rw [rest] at clip
    obtain ⟨others, left, clip⟩ := clip.of_solid solid
    rw [nameStep_of_letters rest quoted letters] at sound ⊢
    rw [nameStep_of_letters left quoted (listed.trans letters)]
    refine (stringStep_alike alike clip solid sound).mono (reaches.trans ?_)
    rw [rest, left]
    exact (Reaches.refl clip).cons quote quote
  · have unquoted : letters? first chars = none ∨ ∀ quote,
        (chars.dropWhile Numeral.mayJoinName).head? = some quote → ¬ (quote = '\'' ∨ quote = '"') := by
      cases letters : letters? first chars with
      | none => exact Or.inl rfl
      | some entry => exact Or.inr fun quote found quoted => literal ⟨quote, entry, found, quoted, letters⟩
    have unquoted' : letters? first clipped = none ∨ ∀ quote,
        (clipped.dropWhile Numeral.mayJoinName).head? = some quote → ¬ (quote = '\'' ∨ quote = '"') := by
      rw [listed]
      refine unquoted.imp_right fun other quote found quoted => other quote ?_ quoted
      have solid : isBlank quote = false := by rcases quoted with rfl | rfl <;> decide
      rwa [reaches.ends.head?_eq_iff solid]
    rw [nameStep_of_name unquoted] at sound ⊢
    rw [nameStep_of_name unquoted', ← same]
    split at sound
    · exact .token (alike.token _) alike reaches
    · cases sound

theorem scanMark_alike (alike : state.Alike other) {c : Char} {after : LexState}
    (found : scanMark state c = .ok after) :
    ∃ after', scanMark other c = .ok after' ∧ after.Alike after' := by
  have depth : state.brackets.length = other.brackets.length := by
    simpa using congrArg List.length alike.brackets
  unfold scanMark at found ⊢
  split at found
  · next opens =>
    rw [if_pos opens]
    split at found
    · cases found
    · next room =>
      cases found
      refine ⟨_, if_neg (by omega), ?_, alike.indents⟩
      simp [alike.brackets]
  · next inner =>
    rw [if_neg inner]
    split at found
    · next closes =>
      rw [if_pos closes]
      have opened := alike.brackets
      split at found
      · cases found
      · next bracket outer open_here =>
        split at found
        · next fits =>
          cases found
          rw [open_here, List.map_cons] at opened
          obtain ⟨bracket', outer', open_there, same, rest⟩ := List.map_eq_cons_iff.mp opened.symm
          rw [open_there]
          refine ⟨_, if_pos (same.trans fits), ?_, alike.indents⟩
          exact rest.symm
        · cases found
    · next plain =>
      rw [if_neg plain]
      split at found
      · next inked =>
        cases found
        exact ⟨other, if_pos inked, alike⟩
      · cases found

theorem longMarks_solid : ∀ mark ∈ longMarks, mark ≠ [] ∧ ∀ c ∈ mark, isBlank c = false := by
  have checked : ∀ mark ∈ longMarks, mark ≠ [] ∧ mark.any isBlank = false := by decide
  exact fun mark listed => (checked mark listed).imp_right Text.isBlank_of_any

theorem markStep_alike (alike : state.Alike other) (ends : Clipped chars clipped) {c : Char}
    (sound : (markStep state c chars).isFault = false) :
    Step.Alike state chars clipped (markStep state c chars) (markStep other c clipped) := by
  have same : longMarks.find? (·.isPrefixOf (c :: chars)) = longMarks.find? (·.isPrefixOf (c :: clipped)) := by
    rw [← List.head?_filter, ← List.head?_filter,
      List.filter_congr fun mark listed => (Clipped.cons c ends).isPrefixOf_eq
        (longMarks_solid mark listed).2]
  unfold markStep at sound ⊢
  rw [← same]
  cases found : longMarks.find? (·.isPrefixOf (c :: chars)) with
  | some mark =>
    obtain ⟨nonempty, solid⟩ := longMarks_solid mark (List.mem_of_find?_eq_some found)
    obtain ⟨first, word, rfl⟩ := List.exists_cons_of_ne_nil nonempty
    have begins := List.find?_some found
    rw [List.isPrefixOf, Bool.and_eq_true] at begins
    refine .token (alike.token _) alike
      ⟨?_, List.drop_suffix word.length chars, List.drop_suffix word.length clipped⟩
    exact ends.drop (fun d member => solid d (List.mem_cons_of_mem first member)) begins.2
  | none =>
    rw [found] at sound
    simp only at sound ⊢
    split at sound
    · next after read =>
      obtain ⟨after', again, later⟩ := scanMark_alike alike read
      rw [again]
      exact .token (later.token _) later (.refl ends)
    · cases sound

theorem markStep_of_isBlank {c : Char} (blank : isBlank c = true) (joins : ¬ Numeral.mayJoinName c = true)
    (inked : c ≠ ' ') : (markStep state c chars).isFault = true := by
  have apart {other : Char} (solid : isBlank other = false) : c ≠ other := Text.ne_of_isBlank blank solid
  have ascii : c.toNat < 128 := by
    simp only [Numeral.mayJoinName, Bool.or_eq_true, decide_eq_true_eq, not_or] at joins
    omega
  have unmarked : longMarks.find? (·.isPrefixOf (c :: chars)) = none := by
    rw [List.find?_eq_none]
    intro mark listed begins
    obtain ⟨nonempty, solid⟩ := longMarks_solid mark listed
    obtain ⟨first, word, rfl⟩ := List.exists_cons_of_ne_nil nonempty
    rw [List.isPrefixOf, Bool.and_eq_true, beq_iff_eq] at begins
    exact apart (solid first List.mem_cons_self) begins.1.symm
  have opens : ¬ (c = '(' ∨ c = '[' ∨ c = '\x7b') := by
    simp only [not_or]
    exact ⟨apart (by decide), apart (by decide), apart (by decide)⟩
  have closes : ¬ (c = ')' ∨ c = ']' ∨ c = '\x7d') := by
    simp only [not_or]
    exact ⟨apart (by decide), apart (by decide), apart (by decide)⟩
  have unread : scanMark state c = .error (.unprintableCharacter c) := by
    rw [scanMark, if_neg opens, if_neg closes, Text.isPrintable_of_isBlank blank ascii inked]
    rfl
  rw [markStep, unmarked]
  simp only [unread]
  rfl

theorem comment_clipped (ends : Clipped chars clipped) :
    Reaches chars clipped (chars.dropWhile (· != '\n')) (clipped.dropWhile (· != '\n')) := by
  refine ⟨?_, List.dropWhile_suffix _, List.dropWhile_suffix _⟩
  induction ends with
  | tail trailing => exact .tail trailing.fromLineEnd
  | @cons c chars clipped ends ih =>
    by_cases feed : c = '\n'
    · subst feed
      exact .cons '\n' ends
    · rwa [List.dropWhile_cons_of_pos (by simpa using feed), List.dropWhile_cons_of_pos (by simpa using feed)]

theorem step_feed_alike (alike : state.Alike other) (ends : Clipped chars clipped) :
    Step.Alike state chars clipped (step state ('\n' :: chars)) (step other ('\n' :: clipped)) := by
  have opened := alike.brackets
  unfold step
  cases open_here : state.brackets with
  | nil =>
    rw [alike.outside open_here]
    exact .lineEnd (alike.token _) open_here (.refl ends)
  | cons bracket outer =>
    cases open_there : other.brackets with
    | nil => simp [open_here, open_there] at opened
    | cons bracket' outer' => exact .skip (alike.afterLineEnd _ _) (.refl ends)

/-- A backslash joins the next line. Before the last line end of a text it is a fault. -/
theorem step_slash_alike (alike : state.Alike other) (ends : Clipped chars clipped)
    (sound : (step state ('\\' :: chars)).isFault = false)
    (sound' : (step other ('\\' :: clipped)).isFault = false) :
    Step.Alike state chars clipped (step state ('\\' :: chars)) (step other ('\\' :: clipped)) := by
  cases ends with
  | tail =>
    have ended : step other ['\\', '\n'] = .stop other.endFault := rfl
    rw [ended, isFault_endFault] at sound'
    cases sound'
  | @cons c chars clipped ends =>
    by_cases feed : c = '\n'
    · subst feed
      simp only [step, ends.ne_nil.1, ends.ne_nil.2]
      exact .skip (alike.withLines _ _) ((Reaches.refl ends).cons _ _)
    · have stray : (step state ('\\' :: c :: chars)).isFault = true := by
        simp [step, feed]
        rfl
      rw [stray] at sound
      cases sound

/-- A step on a character of both texts. -/
theorem step_alike (alike : state.Alike other) (ends : Clipped chars clipped) {c : Char}
    (sound : (step state (c :: chars)).isFault = false)
    (sound' : (step other (c :: clipped)).isFault = false) :
    Step.Alike state chars clipped (step state (c :: chars)) (step other (c :: clipped)) := by
  by_cases feed : c = '\n'
  · subst feed
    exact step_feed_alike alike ends
  by_cases slash : c = '\\'
  · subst slash
    exact step_slash_alike alike ends sound sound'
  rw [step_cons state feed slash] at sound ⊢
  rw [step_cons other feed slash]
  split at sound
  · next blank =>
    rw [if_pos blank, if_pos blank]
    exact .skip alike (.refl ends)
  next visible =>
  rw [if_neg visible, if_neg visible]
  split at sound
  · next comment =>
    rw [if_pos comment, if_pos comment]
    exact .skip alike (comment_clipped ends)
  next code =>
  rw [if_neg code, if_neg code]
  split at sound
  · next digit =>
    rw [if_pos digit, if_pos digit]
    exact numberStep_alike alike (fun _ _ => Numeral.scan_clipped digit ends) sound
  next no_digit =>
  rw [if_neg no_digit, if_neg no_digit]
  split at sound
  · next joins =>
    rw [if_pos joins, if_pos joins]
    exact nameStep_alike alike ends sound
  next apart =>
  rw [if_neg apart, if_neg apart]
  split at sound
  · next quoted =>
    rw [if_pos quoted, if_pos quoted]
    exact stringStep_alike alike ends (by rcases quoted with rfl | rfl <;> decide) sound
  next unquoted =>
  rw [if_neg unquoted, if_neg unquoted]
  simp only [← ends.head?_any_eq fun _ => Text.isDigit_of_isBlank]
  split at sound
  · next point =>
    rw [if_pos point, if_pos point]
    exact numberStep_alike alike (fun _ _ => Numeral.fraction_clipped ends) sound
  · next mark =>
    rw [if_neg mark, if_neg mark]
    exact markStep_alike alike ends sound

end Parts

def isSpace (c : Char) : Bool := c = ' ' ∨ c = '\t' ∨ c = '\x0c'

theorem step_of_isBlank {state : LexState} {c : Char} {rest : List Char} (blank : isBlank c = true)
    (no_space : isSpace c = false) (no_feed : c ≠ '\n') : (step state (c :: rest)).isFault = true := by
  have apart {other : Char} (solid : isBlank other = false) : c ≠ other := Text.ne_of_isBlank blank solid
  have closed : ¬ (c = ' ' ∨ c = '\t' ∨ c = '\x0c') := by simpa [isSpace] using no_space
  have unquoted : ¬ (c = '\'' ∨ c = '"') := not_or.mpr ⟨apart (by decide), apart (by decide)⟩
  rw [step_cons state no_feed (apart (by decide)), if_neg closed, if_neg (apart (by decide)),
    if_neg (by simp [Text.isDigit_of_isBlank blank])]
  by_cases joins : Numeral.mayJoinName c = true
  · rw [if_pos joins]
    exact nameStep_of_blank List.mem_cons_self blank joins
  · rw [if_neg joins, if_neg unquoted, if_neg fun point => apart (show isBlank '.' = false by decide) point.1]
    exact markStep_of_isBlank blank joins (not_or.mp closed).1

end Refactory.Source
