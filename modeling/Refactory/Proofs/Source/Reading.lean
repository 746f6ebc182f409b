import Mathlib.Data.Nat.Init
import Refactory.Source.Program

/-! What readers make of the tokens before them, in the plain pass.

A statement begins with a token that can begin one, and an expression goes on only with a token that
can follow it. So neither tokens that begin with an indentation nor tokens that begin with two names
side by side spell a program.
-/

set_option autoImplicit false

namespace Refactory.Source

namespace Reader

variable {α β : Type}

/-- Before these tokens the reader gives the value and leaves the rest, wherever they stand. -/
structure Yields (reader : Reader α) (tokens : List Token) (value : α) (rest : List Token) : Prop where
  run (cursor : Cursor) (same : cursor.rest = tokens) :
    ∃ after, reader .plain cursor = .ok value after ∧ after.rest = rest

structure StuckAt (reader : Reader α) (tokens : List Token) : Prop where
  run (cursor : Cursor) (same : cursor.rest = tokens) : ∃ reached, reader .plain cursor = .stuck reached

section Sequences

variable {reader : Reader α} {next : α → Reader β} {tokens middle rest : List Token} {value : α}
  {result : β}

theorem stuckAt_stuck : StuckAt (stuck : Reader α) tokens :=
  ⟨fun cursor _ => ⟨cursor.reached, rfl⟩⟩

theorem yields_pure : Yields (pure value : Reader α) tokens value tokens :=
  ⟨fun cursor same => ⟨cursor, rfl, same⟩⟩

theorem bind_of_ok {pass : Pass} {cursor after : Cursor} (done : reader pass cursor = .ok value after) :
    (reader >>= next) pass cursor = next value pass after := by
  change Reader.bind reader next pass cursor = _
  rw [Reader.bind, done]

theorem bind_of_stuck {pass : Pass} {cursor : Cursor} {reached : Nat}
    (done : reader pass cursor = .stuck reached) : (reader >>= next) pass cursor = .stuck reached := by
  change Reader.bind reader next pass cursor = _
  rw [Reader.bind, done]

theorem Yields.bind (first : Yields reader tokens value middle)
    (second : Yields (next value) middle result rest) : Yields (reader >>= next) tokens result rest := by
  refine ⟨fun cursor same => ?_⟩
  obtain ⟨between, done, left⟩ := first.run cursor same
  rw [bind_of_ok done]
  exact second.run between left

theorem StuckAt.bind (first : StuckAt reader tokens) : StuckAt (reader >>= next) tokens := by
  refine ⟨fun cursor same => ?_⟩
  obtain ⟨reached, done⟩ := first.run cursor same
  exact ⟨reached, bind_of_stuck done⟩

theorem Yields.stuck (first : Yields reader tokens value middle) (second : StuckAt (next value) middle) :
    StuckAt (reader >>= next) tokens := by
  refine ⟨fun cursor same => ?_⟩
  obtain ⟨between, done, left⟩ := first.run cursor same
  rw [bind_of_ok done]
  exact second.run between left

/-- What follows a bookmark may depend on it, but not on where it lies. -/
theorem yields_here {next : Cursor → Reader β} (all : ∀ start, Yields (next start) tokens result rest) :
    Yields (here >>= next) tokens result rest :=
  ⟨fun cursor same => (all cursor).run cursor same⟩

theorem stuckAt_here {next : Cursor → Reader β} (all : ∀ start, StuckAt (next start) tokens) :
    StuckAt (here >>= next) tokens :=
  ⟨fun cursor same => (all cursor).run cursor same⟩

/-- Mistakes are not looked for. -/
theorem yields_watch {start : Cursor} {mistake : Reader Unit} :
    Yields (watch start mistake) tokens () tokens :=
  ⟨fun cursor same => ⟨cursor, rfl, same⟩⟩

theorem StuckAt.attempt (none_there : StuckAt reader tokens) :
    Yields (attempt reader) tokens none tokens := by
  refine ⟨fun cursor same => ?_⟩
  obtain ⟨reached, done⟩ := none_there.run cursor same
  refine ⟨{ cursor with reached }, ?_, same⟩
  rw [Reader.attempt, done]

theorem StuckAt.orElse {first second : Reader α} (left : StuckAt first tokens)
    (right : StuckAt second tokens) : StuckAt (orElse first second) tokens := by
  refine ⟨fun cursor same => ?_⟩
  obtain ⟨reached, done⟩ := left.run cursor same
  rw [Reader.orElse, done]
  exact right.run { cursor with reached } same

theorem StuckAt.many (none_there : StuckAt reader tokens) (limit : Nat) :
    Yields (many limit reader) tokens [] tokens := by
  cases limit with
  | zero => exact yields_pure
  | succ limit => exact none_there.attempt.bind yields_pure

theorem yields_extend {step : α → Reader α} (last : StuckAt (step value) tokens) (limit : Nat) :
    Yields (extend limit step value) tokens value tokens := by
  cases limit with
  | zero => exact yields_pure
  | succ limit => exact last.attempt.bind yields_pure

end Sequences

/-! ## One token -/

section Next

variable {token : Token} {lexeme : Lexeme} {rest : List Token}

theorem yields_advance : Yields advance (token :: rest) () rest := by
  refine ⟨fun cursor same => ?_⟩
  exact ⟨{ cursor with rest, index := cursor.index + 1, depth := token.depth },
    by simp only [advance, same], rfl⟩

theorem yields_next (sound : token.isFault = false) :
    Yields next (token :: rest) token.lexeme (token :: rest) := by
  have peeked : Yields peek (token :: rest) token (token :: rest) := by
    refine ⟨fun cursor same => ⟨{ cursor with reached := max cursor.reached cursor.index }, ?_, same⟩⟩
    simp only [peek, same]
    split
    · next found => simp [Token.isFault, found] at sound
    · rfl
  exact peeked.bind yields_pure

theorem yields_nextIs (sound : token.isFault = false) (other : token.lexeme ≠ lexeme) :
    Yields (nextIs lexeme) (token :: rest) false (token :: rest) := by
  have read : Yields (nextIs lexeme) (token :: rest) (token.lexeme == lexeme) (token :: rest) :=
    (yields_next sound).bind yields_pure
  rwa [beq_false_of_ne other] at read

theorem yields_accept (sound : token.isFault = false) (other : token.lexeme ≠ lexeme) :
    Yields (accept lexeme) (token :: rest) false (token :: rest) :=
  (yields_nextIs sound other).bind yields_pure

theorem stuckAt_take (sound : token.isFault = false) (other : token.lexeme ≠ lexeme) :
    StuckAt (take lexeme) (token :: rest) :=
  (yields_accept sound other).stuck stuckAt_stuck

end Next

end Reader

open Reader

/-! ## Tokens that join nothing -/

/-- The token is neither a mark nor a reserved word, so it goes on with nothing that stands before it. -/
structure Token.Bare (token : Token) : Prop where
  sound : token.isFault = false
  noMark (spelling : String) : token.lexeme ≠ .mark spelling
  noWord (spelling : String) : token.lexeme ≠ .word spelling

theorem Token.Bare.of_name {token : Token} {spelling : Spelling} (named : token.lexeme = .name spelling) :
    token.Bare := by
  constructor <;> simp [Token.isFault, named]

theorem Token.Bare.of_indent {token : Token} (indents : token.lexeme = .indent) : token.Bare := by
  constructor <;> simp [Token.isFault, indents]

section Bare

variable {token : Token} {rest : List Token}

theorem yields_acceptMark (bare : token.Bare) (spelling : String) :
    Yields (acceptMark spelling) (token :: rest) false (token :: rest) :=
  yields_accept bare.sound (bare.noMark spelling)

theorem yields_acceptWord (bare : token.Bare) (spelling : String) :
    Yields (acceptWord spelling) (token :: rest) false (token :: rest) :=
  yields_accept bare.sound (bare.noWord spelling)

theorem yields_nextIsMark (bare : token.Bare) (spelling : String) :
    Yields (nextIsMark spelling) (token :: rest) false (token :: rest) :=
  yields_nextIs bare.sound (bare.noMark spelling)

theorem yields_nextIsWord (bare : token.Bare) (spelling : String) :
    Yields (nextIsWord spelling) (token :: rest) false (token :: rest) :=
  yields_nextIs bare.sound (bare.noWord spelling)

theorem stuckAt_mark (bare : token.Bare) (spelling : String) : StuckAt (mark spelling) (token :: rest) :=
  stuckAt_take bare.sound (bare.noMark spelling)

theorem stuckAt_word (bare : token.Bare) (spelling : String) : StuckAt (word spelling) (token :: rest) :=
  stuckAt_take bare.sound (bare.noWord spelling)

theorem stuckAt_operator (bare : token.Bare) {Op : Type} (ops : List (String × Op)) :
    StuckAt (Levels.operator? ops) (token :: rest) := by
  refine (yields_next bare.sound).stuck ?_
  split
  · next spelling found => exact absurd found (bare.noMark spelling)
  · exact stuckAt_stuck

theorem stuckAt_comparisonOperator (bare : token.Bare) :
    StuckAt Levels.comparisonOperator (token :: rest) := by
  refine (yields_next bare.sound).stuck ?_
  split
  · next found => exact absurd found (bare.noWord _)
  · next found => exact absurd found (bare.noWord _)
  · next found => exact absurd found (bare.noWord _)
  · exact stuckAt_operator bare _

theorem stuckAt_trailer (bare : token.Bare) (self : Levels) (limit : Nat) (value : Expr) :
    StuckAt (self.trailer limit value) (token :: rest) := by
  refine (yields_next bare.sound).stuck ?_
  split
  · next found => exact absurd found (bare.noMark _)
  · next found => exact absurd found (bare.noMark _)
  · next found => exact absurd found (bare.noMark _)
  · exact stuckAt_stuck

end Bare

/-! ## An expression that is one name -/

/-- A name before a token that joins nothing is all that the reader takes. -/
def TakesName (reader : Reader Expr) : Prop :=
  ∀ ⦃first second : Token⦄ ⦃spelling : Spelling⦄ ⦃more : List Token⦄, first.lexeme = .name spelling →
    second.Bare →
    Yields reader (first :: second :: more) (.name spelling.normal.text .load) (second :: more)

namespace Levels

variable (self : Levels) (limit : Nat)

theorem atom_takesName : TakesName (atom self limit) := by
  intro first second spelling more named bare
  have sound := (Token.Bare.of_name named).sound
  have spelled : Yields Reader.spelling (first :: second :: more) spelling (second :: more) := by
    refine (yields_next sound).bind ?_
    simp only [named]
    exact yields_advance.bind yields_pure
  have identified : Yields identifier (first :: second :: more) spelling.normal.text (second :: more) :=
    Yields.bind (Yields.bind spelled yields_pure) yields_pure
  refine (yields_next sound).bind ?_
  simp only [named]
  exact identified.bind yields_pure

theorem primary_takesName : TakesName (primary self limit) := by
  intro first second spelling more named bare
  exact (atom_takesName self limit named bare).bind
    (yields_extend (stuckAt_trailer bare self limit _) limit)

theorem power_takesName : TakesName (power self limit) := by
  have awaited_takes : TakesName (awaited self limit) := by
    intro first second spelling more named bare
    exact (yields_acceptWord (.of_name named) "await").bind (primary_takesName self limit named bare)
  intro first second spelling more named bare
  exact (awaited_takes named bare).bind ((stuckAt_mark bare "**").bind.attempt.bind yields_pure)

theorem factor_takesName : TakesName (factor self limit) := by
  intro first second spelling more named bare
  refine (yields_next (Token.Bare.of_name named).sound).bind ?_
  simp only [named]
  exact power_takesName self limit named bare

theorem binary_takesName (ops : List (List (String × BinaryOperator))) :
    TakesName (binary self limit ops) := by
  -- from the strongest operators to the weakest
  induction ops with
  | nil => exact factor_takesName self limit
  | cons weakest tighter ih =>
    intro first second spelling more named bare
    exact (ih named bare).bind (yields_extend (stuckAt_operator bare weakest).bind limit)

theorem comparison_takesName : TakesName (comparison self limit) := by
  intro first second spelling more named bare
  refine (binary_takesName self limit binaryOperators named bare).bind ?_
  exact ((stuckAt_comparisonOperator bare).bind.many limit).bind yields_pure

theorem joined_takesName {operand : Reader Expr} (op : BoolOperator) (joint : String)
    (takes : TakesName operand) : TakesName (joined limit op joint operand) := by
  intro first second spelling more named bare
  exact (takes named bare).bind (((stuckAt_word bare joint).bind.many limit).bind yields_pure)

theorem disjunction_takesName : TakesName (disjunction self limit) := by
  have inversion_takes : TakesName (inversion self limit) := by
    intro first second spelling more named bare
    exact (yields_acceptWord (.of_name named) "not").bind (comparison_takesName self limit named bare)
  exact joined_takesName limit .or "or" (joined_takesName limit .and "and" inversion_takes)

theorem expression_takesName : TakesName (expression self limit) := by
  intro first second spelling more named bare
  refine (yields_nextIsWord (.of_name named) "lambda").bind (yields_here fun start => ?_)
  refine (disjunction_takesName self limit named bare).bind (yields_here fun _ => ?_)
  exact yields_watch.bind (yields_watch.bind ((stuckAt_word bare "if").bind.attempt.bind yields_pure))

theorem starExpressions_takesName (takes : TakesName (self .expression)) :
    TakesName (starExpressions self limit) := by
  have star_takes : TakesName (star self) := by
    intro first second spelling more named bare
    exact (yields_acceptMark (.of_name named) "*").bind (takes named bare)
  intro first second spelling more named bare
  exact (star_takes named bare).bind ((yields_nextIsMark bare ",").bind yields_pure)

end Levels

/-! ## Tokens that begin nothing -/

def StuckAtIndent {α : Type} (reader : Reader α) : Prop :=
  ∀ ⦃token : Token⦄ ⦃more : List Token⦄, token.lexeme = .indent → StuckAt reader (token :: more)

namespace Levels

variable (self : Levels) (limit : Nat)

theorem primary_stuckAtIndent : StuckAtIndent (primary self limit) := by
  intro token more indents
  have unread : StuckAt (atom self limit) (token :: more) := by
    refine (yields_next (Token.Bare.of_indent indents).sound).stuck ?_
    simp only [indents]
    exact stuckAt_stuck
  exact unread.bind

theorem binary_stuckAtIndent (ops : List (List (String × BinaryOperator))) :
    StuckAtIndent (binary self limit ops) := by
  intro token more indents
  induction ops with
  | nil =>
    have base : StuckAt (awaited self limit) (token :: more) :=
      (yields_acceptWord (.of_indent indents) "await").stuck (primary_stuckAtIndent self limit indents)
    refine (yields_next (Token.Bare.of_indent indents).sound).stuck ?_
    simp only [indents]
    exact base.bind
  | cons weakest tighter ih => exact ih.bind

theorem expression_stuckAtIndent : StuckAtIndent (expression self limit) := by
  intro token more indents
  have compared : StuckAt (comparison self limit) (token :: more) :=
    (binary_stuckAtIndent self limit binaryOperators indents).bind
  have inverted : StuckAt (inversion self limit) (token :: more) :=
    (yields_acceptWord (.of_indent indents) "not").stuck compared
  have disjoined : StuckAt (disjunction self limit) (token :: more) := inverted.bind.bind
  exact (yields_nextIsWord (.of_indent indents) "lambda").stuck (stuckAt_here fun _ => disjoined.bind)

theorem starExpressions_stuckAtIndent (stuck : StuckAtIndent (self .expression)) :
    StuckAtIndent (starExpressions self limit) := by
  intro token more indents
  have starred : StuckAt (star self) (token :: more) :=
    (yields_acceptMark (.of_indent indents) "*").stuck (stuck indents)
  exact starred.bind

end Levels

/-! ## Statements and programs -/

namespace StatementReader

variable {first second : Token} {spelling other : Spelling} {more : List Token}

/-- No statement begins with two names side by side. -/
theorem simpleLine_stuck (fuel : Nat) (named : first.lexeme = .name spelling)
    (beside : second.lexeme = .name other) : StuckAt (simpleLine fuel) (first :: second :: more) := by
  have sound := (Token.Bare.of_name named).sound
  have bare : second.Bare := .of_name beside
  cases fuel with
  | zero =>
    have unread : StuckAt (Levels.star (Expr.read 0)) (first :: second :: more) :=
      (yields_acceptMark (.of_name named) "*").stuck stuckAt_stuck
    have statement : StuckAt (simple 0) (first :: second :: more) := by
      refine (yields_next sound).stuck ?_
      simp only [named]
      exact stuckAt_here fun _ => unread.bind.bind
    exact statement.bind
  | succ fuel =>
    have value : Yields (Levels.starExpressions (Expr.read (fuel + 1)) (fuel + 1))
        (first :: second :: more) (.name spelling.normal.text .load) (second :: more) :=
      Levels.starExpressions_takesName (Expr.read (fuel + 1)) (fuel + 1)
        (Levels.expression_takesName (Expr.read fuel) fuel) named bare
    -- the second name is no sign of an assignment
    have unassigned (start : Cursor) : StuckAt (orElse
        (annotated (fuel + 1) start (.name spelling.normal.text .load))
        (orElse (assignment (fuel + 1) (fuel + 1) [] (.name spelling.normal.text .load))
          (combining (fuel + 1) (.name spelling.normal.text .load)))) (second :: more) :=
      (stuckAt_mark bare ":").bind.orElse
        ((stuckAt_mark bare "=").bind.orElse (stuckAt_operator bare combinations).bind)
    have statement : Yields (simple (fuel + 1)) (first :: second :: more)
        (.expression (.name spelling.normal.text .load)) (second :: more) := by
      refine (yields_next sound).bind ?_
      simp only [named]
      refine yields_here fun start => value.bind ((unassigned start).attempt.bind ?_)
      exact yields_here fun _ => yields_watch.bind yields_pure
    -- nor is it the end of the statement
    have unfinished : StuckAt (take .lineEnd) (second :: more) :=
      stuckAt_take bare.sound (by simp [beside])
    refine statement.stuck (((stuckAt_mark bare ";").bind.many (fuel + 1)).stuck ?_)
    exact (yields_acceptMark bare ";").stuck unfinished.bind

theorem simpleLine_stuckAtIndent (fuel : Nat) : StuckAtIndent (simpleLine fuel) := by
  intro token more indents
  have unread : StuckAtIndent (Expr.read fuel .expression) := by
    cases fuel with
    | zero => exact fun _ _ _ => stuckAt_stuck
    | succ fuel => exact Levels.expression_stuckAtIndent (Expr.read fuel) fuel
  have value : StuckAt (Levels.starExpressions (Expr.read fuel) fuel) (token :: more) :=
    Levels.starExpressions_stuckAtIndent (Expr.read fuel) fuel unread indents
  have statement : StuckAt (simple fuel) (token :: more) := by
    refine (yields_next (Token.Bare.of_indent indents).sound).stuck ?_
    simp only [indents]
    exact stuckAt_here fun _ => value.bind
  exact statement.bind

end StatementReader

variable {first second : Token} {spelling other : Spelling} {more : List Token}

theorem Stmt.read_stuck (fuel : Nat) (named : first.lexeme = .name spelling)
    (plain : spelling.text ≠ "match") (beside : second.lexeme = .name other) :
    StuckAt (Stmt.read fuel) (first :: second :: more) := by
  cases fuel with
  | zero => exact stuckAt_stuck
  | succ fuel =>
    refine (yields_next (Token.Bare.of_name named).sound).stuck ?_
    simp only [named]
    split
    all_goals try contradiction
    · next found =>
      cases found
      exact absurd rfl plain
    · exact StatementReader.simpleLine_stuck fuel named beside

theorem Stmt.read_stuckAtIndent (fuel : Nat) : StuckAtIndent (Stmt.read fuel) := by
  intro token more indents
  cases fuel with
  | zero => exact stuckAt_stuck
  | succ fuel =>
    refine (yields_next (Token.Bare.of_indent indents).sound).stuck ?_
    simp only [indents]
    exact StatementReader.simpleLine_stuckAtIndent fuel indents

/-- Tokens that are not the end of the source, and that no statement begins with, are no program. -/
theorem program_stuck {token : Token} (fuel : Nat) (unread : StuckAt (Stmt.read fuel) (token :: more))
    (bare : token.Bare) (more_to_come : token.lexeme ≠ .endOfSource) :
    StuckAt (program fuel) (token :: more) :=
  (unread.many fuel).stuck (stuckAt_take bare.sound more_to_come).bind

theorem Program.ofTokens?_of_stuck {tokens : List Token}
    (stuck : StuckAt (program (fuelFor tokens)) (tokens.map Token.unplaced)) :
    Program.ofTokens? tokens = none := by
  obtain ⟨reached, done⟩ := stuck.run (Cursor.start (tokens.map Token.unplaced)) rfl
  unfold Program.ofTokens?
  rw [done]
  split <;> rfl

/-- Two names side by side begin no program, unless the first one may be a word. -/
theorem Program.ofTokens?_of_names (named : first.lexeme = .name spelling)
    (plain : spelling.text ≠ "match") (beside : second.lexeme = .name other) :
    Program.ofTokens? (first :: second :: more) = none := by
  apply ofTokens?_of_stuck
  have unread : StuckAt (Stmt.read (fuelFor (first :: second :: more)))
      (first.unplaced :: second.unplaced :: more.map Token.unplaced) :=
    Stmt.read_stuck _ named plain beside
  have bare : first.unplaced.Bare := .of_name named
  exact program_stuck _ unread bare (by simp [Token.unplaced, named])

theorem Program.ofTokens?_of_indent (indents : first.lexeme = .indent) :
    Program.ofTokens? (first :: more) = none := by
  apply ofTokens?_of_stuck
  have bare : first.unplaced.Bare := .of_indent indents
  have unread : StuckAt (Stmt.read (fuelFor (first :: more)))
      (first.unplaced :: more.map Token.unplaced) :=
    Stmt.read_stuckAtIndent _ indents
  exact program_stuck _ unread bare (by simp [Token.unplaced, indents])

theorem spelled_of_parse {text : String} {found : Program} (parsed : Program.parse text = .ok found) :
    Program.ofTokens? (Token.scan text.toList) = some found := by
  unfold Program.parse at parsed
  simp only at parsed
  split at parsed
  · cases parsed
  · unfold Program.ofTokens at parsed
    split at parsed
    · next spelled =>
      cases parsed
      exact spelled
    · cases parsed

end Refactory.Source
