import Refactory.Proofs.Source.PlainExpressions
import Refactory.Proofs.Source.Reading

/-! Programs as they are read.

The targets in a program that is read are marked for binding, and no other expressions are. So a name
that is marked for binding stands in a target, and every name in a target is marked for binding.
-/

set_option autoImplicit false

namespace Refactory.Source

open Outline Reader

/-! ## Patterns -/

namespace PatternReader

theorem gives_signedNumber : Gives signedNumber Expr.Plain := by
  refine gives_after fun negative => gives_after fun start => gives_after fun value => ?_
  extract_lets first sum
  have single : first.Plain := by
    dsimp only [first]
    split
    · exact Expr.plain_unary.mpr (Expr.plain_constant _)
    · exact Expr.plain_constant _
  have given : ∀ op, Gives (sum op) Expr.Plain := by
    intro op
    refine gives_after fun _ => gives_guarded fun _ => gives_after fun _ => gives_after fun second => ?_
    refine gives_guarded fun _ => gives_pure ?_
    exact Expr.plain_binary.mpr ⟨single, Expr.plain_constant _⟩
  refine gives_after fun lexeme => ?_
  split
  · exact given .add
  · exact given .sub
  · exact gives_pure single

theorem gives_dotted (limit : Nat) : Gives (dotted limit) Expr.Plain := by
  refine gives_after fun first => Gives.extend (fun value fit => ?_) limit (Expr.plain_name first)
  exact gives_after fun _ => gives_after fun _ => gives_pure (Expr.plain_attribute.mpr fit)

theorem gives_attributeOnly (limit : Nat) : Gives (attributeOnly limit) Expr.Plain := by
  refine (gives_dotted limit).bind fun value fit => ?_
  split
  · exact gives_pure fit
  · exact gives_stuck

theorem gives_literal (fuel : Nat) : Gives (literal fuel) Expr.Plain := by
  refine gives_after fun lexeme => ?_
  split
  · exact gives_signedNumber
  · exact gives_signedNumber
  · exact Levels.gives_strings (Expr.gives_read fuel) fuel
  · exact gives_after fun _ => gives_pure (Expr.plain_constant _)
  · exact gives_after fun _ => gives_pure (Expr.plain_constant _)
  · exact gives_after fun _ => gives_pure (Expr.plain_constant _)
  · exact gives_stuck

theorem tidy_ofLiteral {value : Expr} (fit : value.Plain) : (ofLiteral value).outline.Tidy := by
  rw [ofLiteral.eq_def]
  split
  · exact tidy_of_plain rfl tidyParts_nil
  · exact tidy_of_plain rfl tidyParts_nil
  · exact tidy_of_plain rfl (by simpa using fit)

theorem tidy_sequence {patterns : List Pattern} (tidy : ∀ pattern ∈ patterns, pattern.outline.Tidy) :
    (Pattern.sequence patterns).outline.Tidy :=
  tidy_of_plain rfl (tidyParts_patterns.mpr tidy)

variable {self : Reader Pattern} (tidy : Gives self fun pattern => pattern.outline.Tidy) (fuel : Nat)

include tidy

theorem gives_maybeStar : Gives (maybeStar self) fun pattern => pattern.outline.Tidy := by
  refine gives_after fun _ => Gives.ite (gives_after fun _ => Gives.ite ?_ (gives_after fun _ => ?_)) tidy
  · exact gives_pure (tidy_of_plain rfl tidyParts_nil)
  · exact gives_pure (tidy_of_plain rfl tidyParts_nil)

theorem gives_sequenceRest {first : Pattern} (fit : first.outline.Tidy) :
    Gives (sequenceRest self fuel first) fun pattern => pattern.outline.Tidy := by
  refine ((gives_maybeStar tidy).separated fuel).attempt.bind fun others fits => ?_
  split
  · exact gives_pure (tidy_sequence (List.forall_mem_singleton.mpr fit))
  · exact gives_after fun _ => gives_pure (tidy_sequence (List.forall_mem_cons.mpr ⟨fit, fits _ rfl⟩))

theorem gives_parenthesised : Gives (parenthesised self fuel) fun pattern => pattern.outline.Tidy := by
  refine gives_after fun _ => gives_after fun _ => Gives.ite (gives_pure (tidy_sequence (by simp))) ?_
  refine (gives_maybeStar tidy).bind fun first fit => gives_after fun _ => Gives.ite ?_ ?_
  · exact (gives_sequenceRest tidy fuel fit).bind fun whole fits => gives_after fun _ => gives_pure fits
  · exact Gives.ite gives_stuck (gives_after fun _ => gives_pure fit)

theorem gives_bracketed : Gives (bracketed self fuel) fun pattern => pattern.outline.Tidy := by
  refine gives_after fun _ => gives_after fun _ => Gives.ite (gives_pure (tidy_sequence (by simp))) ?_
  refine ((gives_maybeStar tidy).separated fuel).bind fun items fits => ?_
  exact gives_after fun _ => gives_after fun _ => gives_pure (tidy_sequence fits)

theorem gives_keyValue :
    Gives (keyValue self fuel) fun item => item.1.Plain ∧ item.2.outline.Tidy := by
  refine ((gives_literal fuel).orElse (gives_attributeOnly fuel)).bind fun key fit => ?_
  exact gives_after fun _ => tidy.bind fun pattern fits => gives_pure ⟨fit, fits⟩

theorem gives_braced : Gives (braced self fuel) fun pattern => pattern.outline.Tidy := by
  refine gives_after fun _ => gives_after fun _ => Gives.ite ?_ ?_
  · exact gives_pure (tidy_of_plain rfl (by simp [exprOutlines, patternOutlines]))
  refine ((gives_keyValue tidy fuel).separated fuel).attempt.bind fun items fits => ?_
  have each := forall_mem_getD fits
  refine gives_after fun rest => gives_after fun _ => gives_after fun _ => ?_
  refine gives_guarded fun _ => gives_pure (tidy_of_plain rfl ?_)
  simp only [tidyParts_append, tidyParts_exprs, tidyParts_patterns, List.forall_mem_map]
  exact ⟨fun item member => (each item member).1, fun item member => (each item member).2⟩

theorem gives_keywordPattern :
    Gives (keywordPattern self) fun item => item.2.outline.Tidy := by
  exact gives_after fun _ => gives_after fun _ => tidy.bind fun pattern fit => gives_pure fit

theorem gives_positionalPattern : Gives (positionalPattern self) fun pattern => pattern.outline.Tidy :=
  gives_after fun _ => Gives.ite gives_stuck tidy

theorem gives_construct {callee : Expr} (fit : callee.Plain) :
    Gives (construct self fuel callee) fun pattern => pattern.outline.Tidy := by
  refine gives_after fun _ => Gives.ite ?_ ?_
  · exact gives_pure (tidy_of_plain rfl (by simpa [patternOutlines] using fit))
  refine ((gives_positionalPattern tidy).separated fuel).attempt.bind fun positional fits => ?_
  have keywords := (gives_keywordPattern tidy).separated fuel
  refine (Gives.attempt (gives_guarded fun _ => keywords)).bind fun named others => ?_
  refine gives_guarded fun _ => gives_after fun _ => gives_after fun _ => ?_
  refine gives_after fun _ => gives_after fun _ => gives_pure (tidy_of_plain rfl ?_)
  simp only [tidyParts_expr, tidyParts_append, tidyParts_patterns, List.forall_mem_map]
  exact ⟨fit, forall_mem_getD fits, forall_mem_getD others⟩

theorem gives_named : Gives (named self fuel) fun pattern => pattern.outline.Tidy := by
  refine gives_after fun _ => Gives.ite ?_ (gives_after fun captured => ?_)
  · exact gives_pure (tidy_of_plain rfl tidyParts_nil)
  split
  · exact gives_pure (tidy_of_plain rfl tidyParts_nil)
  · refine (gives_dotted fuel).bind fun value fit => gives_after fun _ => ?_
    refine Gives.ite (gives_construct tidy fuel fit) ?_
    split
    · exact gives_after fun _ => gives_pure (tidy_of_plain rfl (by simpa using fit))
    · exact gives_stuck

theorem gives_closed : Gives (closed self fuel) fun pattern => pattern.outline.Tidy := by
  refine gives_after fun lexeme => ?_
  split
  · exact gives_named tidy fuel
  · exact gives_parenthesised tidy fuel
  · exact gives_bracketed tidy fuel
  · exact gives_braced tidy fuel
  · exact (gives_literal fuel).bind fun value fit => gives_pure (tidy_ofLiteral fit)

theorem gives_alternative : Gives (alternative self fuel) fun pattern => pattern.outline.Tidy := by
  have one := gives_closed tidy fuel
  refine one.bind fun first fit => (Gives.many (gives_after fun _ => one) fuel).bind fun others fits => ?_
  refine Gives.ite (gives_pure fit) (gives_pure (tidy_of_plain rfl (tidyParts_patterns.mpr ?_)))
  exact List.forall_mem_cons.mpr ⟨fit, fits⟩

theorem gives_whole : Gives (whole self fuel) fun pattern => pattern.outline.Tidy := by
  refine (gives_alternative tidy fuel).bind fun found fit => gives_after fun name => ?_
  split
  · exact gives_pure (tidy_of_plain rfl (tidyParts_patterns.mpr (List.forall_mem_singleton.mpr fit)))
  · exact gives_after fun _ => gives_after fun _ => gives_pure fit

end PatternReader

theorem Pattern.gives_read (fuel : Nat) : Gives (Pattern.read fuel) fun pattern => pattern.outline.Tidy := by
  induction fuel with
  | zero => exact gives_stuck
  | succ fuel ih => exact PatternReader.gives_whole ih fuel

theorem Pattern.gives_readOpen (fuel : Nat) :
    Gives (Pattern.readOpen fuel) fun pattern => pattern.outline.Tidy := by
  have inner := Pattern.gives_read fuel
  refine (PatternReader.gives_maybeStar inner).bind fun first fit => gives_after fun _ => ?_
  refine Gives.ite (PatternReader.gives_sequenceRest inner fuel fit) ?_
  exact Gives.ite gives_stuck (gives_pure fit)

/-! ## Statements -/

namespace StatementReader

theorem gives_assigned (fuel : Nat) : Gives (assigned fuel) Expr.Plain :=
  gives_after fun _ => Gives.ite (Levels.gives_yielded (Expr.gives_read fuel) fuel)
    (Levels.gives_starExpressions (Expr.gives_read fuel) fuel)

theorem gives_annotated (fuel : Nat) (start : Cursor) {value : Expr} (fit : value.Plain) :
    Gives (annotated fuel start value) fun stmt => stmt.outline.Tidy := by
  refine gives_after fun _ => ?_
  split
  · exact gives_stuck
  · next target found =>
    refine (Expr.gives_read fuel .expression).bind fun typeHint hint => ?_
    refine (Gives.attempt (gives_after fun _ => gives_assigned fuel)).bind fun given fits => ?_
    refine gives_pure (tidy_node.mpr (tidyParts_target (fit.asSingleTarget found) ?_))
    rw [tidyParts_expr, tidyParts_option]
    exact ⟨hint, fits⟩

theorem gives_assignment (fuel limit : Nat) {targets : List Expr} {value : Expr}
    (bound : ∀ target ∈ targets, target.Bindable) (fit : value.Plain) :
    Gives (assignment fuel limit targets value) fun stmt => stmt.outline.Tidy := by
  -- the value between two signs becomes the next target, so the targets grow with each round
  induction limit generalizing targets value with
  | zero => exact gives_stuck
  | succ limit ih =>
    refine gives_after fun _ => ?_
    split
    · exact gives_stuck
    · next target found =>
      have all : ∀ item ∈ target :: targets, item.Bindable :=
        List.forall_mem_cons.mpr ⟨fit.asTarget found, bound⟩
      refine (gives_assigned fuel).bind fun given fits => gives_after fun _ => Gives.ite ?_ ?_
      · split
        · exact gives_stuck
        · exact gives_stuck
        · exact ih all fits
      · refine gives_pure (tidy_node.mpr (tidyParts_append.mpr ⟨?_, ?_⟩))
        · exact tidyParts_targets.mpr fun item member => all item (List.mem_reverse.mp member)
        · refine TidyParts.beside (by simpa using fits) fun item member => ?_
          exact (all item (List.mem_reverse.mp member)).marked

theorem gives_combining (fuel : Nat) {value : Expr} (fit : value.Plain) :
    Gives (combining fuel value) fun stmt => stmt.outline.Tidy := by
  rw [combining]
  split
  · exact gives_stuck
  · next target found =>
    refine gives_after fun op => (gives_assigned fuel).bind fun given fits => gives_pure ?_
    exact tidy_node.mpr (tidyParts_target (fit.asSingleTarget found) (by simpa using fits))

theorem gives_expressionStatement (fuel : Nat) :
    Gives (expressionStatement fuel) fun stmt => stmt.outline.Tidy := by
  refine gives_after fun start => ?_
  refine (Levels.gives_starExpressions (Expr.gives_read fuel) fuel).bind fun value fit => ?_
  have assigning : Gives (assignment fuel fuel [] value) fun stmt => stmt.outline.Tidy :=
    gives_assignment fuel fuel (by simp) fit
  have any := (gives_annotated fuel start fit).orElse (assigning.orElse (gives_combining fuel fit))
  refine any.attempt.bind fun found tidy => ?_
  split
  · exact gives_pure (tidy _ rfl)
  · refine gives_after fun _ => gives_after fun _ => gives_pure (tidy_of_plain rfl ?_)
    simpa using fit

theorem gives_raising (fuel : Nat) : Gives (raising fuel) fun stmt => stmt.outline.Tidy := by
  have value := Expr.gives_read fuel .expression
  refine gives_after fun _ => value.attempt.bind fun error fit => ?_
  split
  · exact gives_pure (tidy_of_plain rfl (by simp))
  · refine (Gives.attempt (gives_after fun _ => value)).bind fun cause fits => ?_
    refine gives_pure (tidy_of_plain rfl ?_)
    simp only [tidyParts_append, tidyParts_option]
    exact ⟨fit, fits⟩

theorem gives_deletion (fuel : Nat) : Gives (deletion fuel) fun stmt => stmt.outline.Tidy := by
  refine gives_after fun _ => Gives.bind (@Gives.separated _ _ Expr.Plain ?_ fuel) fun targets fits => ?_
  · refine (Expr.gives_read fuel .primary).bind fun value fit => ?_
    split
    · next deleted found => exact gives_pure (fit.asDeleted found)
    · exact gives_stuck
  have tidy : (Stmt.del targets).outline.Tidy := tidy_of_plain rfl (tidyParts_exprs.mpr fits)
  refine gives_after fun _ => gives_after fun lexeme => ?_
  split
  · exact gives_pure tidy
  · exact gives_pure tidy
  · exact gives_stuck

theorem gives_assertion (fuel : Nat) : Gives (assertion fuel) fun stmt => stmt.outline.Tidy := by
  have value := Expr.gives_read fuel .expression
  refine gives_after fun _ => value.bind fun test fit => ?_
  refine (Gives.attempt (gives_after fun _ => value)).bind fun message fits => ?_
  refine gives_pure (tidy_of_plain rfl ?_)
  rw [tidyParts_expr, tidyParts_option]
  exact ⟨fit, fits⟩

theorem gives_importNames (fuel : Nat) : Gives (importNames fuel) fun stmt => stmt.outline.Tidy :=
  gives_after fun _ => gives_after fun _ => gives_pure (tidy_of_plain rfl tidyParts_nil)

theorem gives_importFrom (fuel : Nat) : Gives (importFrom fuel) fun stmt => stmt.outline.Tidy := by
  refine gives_after fun _ => gives_after fun _ => gives_after fun _ => gives_guarded fun _ => ?_
  exact gives_after fun _ => gives_after fun _ => gives_pure (tidy_of_plain rfl tidyParts_nil)

theorem gives_simple (fuel : Nat) : Gives (simple fuel) fun stmt => stmt.outline.Tidy := by
  refine gives_after fun lexeme => ?_
  split
  · refine gives_after fun _ => ?_
    refine (Levels.gives_starExpressions (Expr.gives_read fuel) fuel).attempt.bind fun value fit => ?_
    exact gives_pure (tidy_of_plain rfl (tidyParts_option.mpr fit))
  · exact gives_importNames fuel
  · exact gives_importFrom fuel
  · exact gives_raising fuel
  · exact gives_after fun _ => gives_pure (tidy_of_plain rfl tidyParts_nil)
  · exact (gives_deletion fuel).orMistake
  · refine gives_after fun _ => gives_after fun _ => ?_
    refine (Levels.gives_yielded (Expr.gives_read fuel) fuel).bind fun value fit => ?_
    exact gives_pure (tidy_of_plain rfl (by simpa using fit))
  · exact gives_assertion fuel
  · exact gives_after fun _ => gives_pure (tidy_of_plain rfl tidyParts_nil)
  · exact gives_after fun _ => gives_pure (tidy_of_plain rfl tidyParts_nil)
  · exact gives_after fun _ => gives_after fun _ => gives_pure (tidy_of_plain rfl tidyParts_nil)
  · exact gives_after fun _ => gives_after fun _ => gives_pure (tidy_of_plain rfl tidyParts_nil)
  · exact gives_expressionStatement fuel

theorem gives_simpleLine (fuel : Nat) :
    Gives (simpleLine fuel) fun found => ∀ stmt ∈ found, stmt.outline.Tidy := by
  have one := gives_simple fuel
  refine one.bind fun first fit => (Gives.many (gives_after fun _ => one) fuel).bind fun others fits => ?_
  exact gives_after fun _ => gives_after fun _ => gives_pure (List.forall_mem_cons.mpr ⟨fit, fits⟩)

/-! ## Blocks -/

variable {self : Reader (List Stmt)} (tidy : Gives self fun found => ∀ stmt ∈ found, stmt.outline.Tidy)
  (fuel : Nat)

include tidy

theorem gives_block (owner : BlockOwner) (line : Nat) :
    Gives (block self fuel owner line) fun found => ∀ stmt ∈ found, stmt.outline.Tidy := by
  refine gives_after fun _ => Gives.ite (gives_after fun _ => Gives.ite ?_ ?_) (gives_simpleLine fuel)
  · refine (tidy.many1 fuel).bind fun found fits => gives_after fun _ => gives_pure ?_
    exact List.forall_mem_flatten.mpr fits
  · exact gives_after fun _ => gives_after fun _ => gives_stuck

theorem gives_optionalElse :
    Gives (optionalElse self fuel) fun found => ∀ stmt ∈ found, stmt.outline.Tidy := by
  have inner : Gives (elseBlock self fuel) fun found => ∀ stmt ∈ found, stmt.outline.Tidy :=
    gives_after fun _ => gives_after fun _ => gives_after fun _ => gives_block tidy fuel _ _
  exact inner.attempt.bind fun found fits => gives_pure (forall_mem_getD fits)

theorem gives_conditionBlock (header : BlockWord) :
    Gives (conditionBlock self fuel header) fun found =>
      found.1.Plain ∧ ∀ stmt ∈ found.2, stmt.outline.Tidy := by
  refine gives_after fun _ => gives_after fun _ => ?_
  refine (Levels.gives_named (Expr.gives_read fuel)).bind fun test fit => gives_after fun _ => ?_
  exact (gives_block tidy fuel _ _).bind fun body fits => gives_pure ⟨fit, fits⟩

omit tidy in
theorem nestConditions_tidy {others : List (Expr × List Stmt)} {otherwise : List Stmt}
    (fits : ∀ other ∈ others, other.1.Plain ∧ ∀ stmt ∈ other.2, stmt.outline.Tidy)
    (last : ∀ stmt ∈ otherwise, stmt.outline.Tidy) :
    ∀ stmt ∈ nestConditions others otherwise, stmt.outline.Tidy := by
  induction others with
  | nil => exact last
  | cons other rest ih =>
    obtain ⟨first, others⟩ := List.forall_mem_cons.mp fits
    refine List.forall_mem_singleton.mpr (tidy_of_plain rfl ?_)
    simp only [tidyParts_expr, tidyParts_append, tidyParts_stmts]
    exact ⟨first.1, first.2, ih others⟩

theorem gives_ifStatement : Gives (ifStatement self fuel) fun stmt => stmt.outline.Tidy := by
  refine (gives_conditionBlock tidy fuel _).bind fun first fit => ?_
  refine ((gives_conditionBlock tidy fuel _).many fuel).bind fun others fits => ?_
  refine (gives_optionalElse tidy fuel).bind fun otherwise last => gives_pure (tidy_of_plain rfl ?_)
  simp only [tidyParts_expr, tidyParts_append, tidyParts_stmts]
  exact ⟨fit.1, fit.2, nestConditions_tidy fits last⟩

theorem gives_whileStatement : Gives (whileStatement self fuel) fun stmt => stmt.outline.Tidy := by
  refine (gives_conditionBlock tidy fuel _).bind fun first fit => ?_
  refine (gives_optionalElse tidy fuel).bind fun otherwise last => gives_pure (tidy_of_plain rfl ?_)
  simp only [tidyParts_expr, tidyParts_append, tidyParts_stmts]
  exact ⟨fit.1, fit.2, last⟩

theorem gives_forStatement (isAsync : Bool) :
    Gives (forStatement self fuel isAsync) fun stmt => stmt.outline.Tidy := by
  have values := Expr.gives_read fuel
  refine gives_after fun _ => (Levels.gives_loopTarget values fuel).bind fun target bound => ?_
  refine (Levels.gives_starExpressions values fuel).bind fun source fit => gives_after fun _ => ?_
  refine (gives_block tidy fuel _ _).bind fun body fits => ?_
  refine (gives_optionalElse tidy fuel).bind fun otherwise last => gives_pure ?_
  refine tidy_node.mpr (tidyParts_target bound ?_)
  simp only [tidyParts_expr, tidyParts_append, tidyParts_stmts]
  exact ⟨fit, fits, last⟩

omit tidy in
theorem gives_withItem : Gives (withItem fuel) fun item => item.outline.Tidy := by
  refine (Expr.gives_read fuel .expression).bind fun manager fit => ?_
  have inner : Gives (withTarget fuel) Expr.Bindable :=
    gives_after fun _ => (Levels.gives_starTarget (Expr.gives_read fuel)).bind fun _ bound =>
      gives_after fun _ => gives_pure bound
  refine inner.orMistake.attempt.bind fun target bound => gives_pure ?_
  cases target with
  | none => exact tidy_of_plain rfl (by simpa [optionOutline] using fit)
  | some target =>
    -- the target stands behind the manager, so that `tidyParts_target` fits only a part of the list
    have beside : TidyParts [target] [manager.outline] := by
      refine TidyParts.beside (by simpa using fit) (List.forall_mem_singleton.mpr ?_)
      exact (bound target rfl).marked
    have aim := tidyParts_target (bound target rfl) tidyParts_nil
    exact tidy_node.mpr (tidyParts_append.mpr ⟨beside, aim⟩)

omit tidy in
theorem gives_withItemsInParentheses :
    Gives (withItemsInParentheses fuel) fun found => ∀ item ∈ found, item.outline.Tidy := by
  refine gives_after fun _ => ((gives_withItem fuel).separated fuel).bind fun items fits => ?_
  exact gives_after fun _ => gives_after fun _ => gives_after fun _ => gives_pure fits

theorem gives_withStatement (isAsync : Bool) :
    Gives (withStatement self fuel isAsync) fun stmt => stmt.outline.Tidy := by
  refine gives_after fun _ => gives_after fun _ => gives_after fun _ => ?_
  refine (gives_withItemsInParentheses fuel).attempt.bind fun enclosed fits => ?_
  extract_lets close
  have given : ∀ items, (∀ item ∈ items, item.outline.Tidy) →
      Gives (close items) fun stmt => stmt.outline.Tidy := by
    intro items each
    refine (gives_block tidy fuel _ _).bind fun body inner => gives_pure (tidy_of_plain rfl ?_)
    rw [tidyParts_append, tidyParts_withItems, tidyParts_stmts]
    exact ⟨each, inner⟩
  have bare : Gives (do
      let items ← separated fuel (withItem fuel)
      mark ":"
      return items) fun found => ∀ item ∈ found, item.outline.Tidy :=
    ((gives_withItem fuel).separated fuel).bind fun _ each => gives_after fun _ => gives_pure each
  split
  · exact (gives_pure (fits _ rfl)).bind given
  · refine bare.attempt.bind fun found fits => ?_
    split
    · exact (gives_pure (fits _ rfl)).bind given
    · exact gives_after fun _ => gives_stuck.bind given

omit tidy in
theorem gives_decorators : Gives (decorators fuel) fun found => ∀ value ∈ found, value.Plain := by
  refine Gives.many (gives_after fun _ => ?_) fuel
  refine (Levels.gives_named (Expr.gives_read fuel)).bind fun value fit => ?_
  exact gives_after fun _ => gives_pure fit

theorem gives_functionDefinition (isAsync : Bool) {decorations : List Expr}
    (fits : ∀ value ∈ decorations, value.Plain) :
    Gives (functionDefinition self fuel isAsync decorations) fun stmt => stmt.outline.Tidy := by
  have values := Expr.gives_read fuel
  refine gives_after fun _ => gives_after fun _ => gives_after fun _ => gives_after fun _ => ?_
  refine (Levels.gives_parameters values fuel _).bind fun parameters fit => gives_after fun _ => ?_
  refine (Gives.attempt (gives_after fun _ => values .expression)).bind fun returns last => ?_
  refine gives_after fun _ => (gives_block tidy fuel _ _).bind fun body inner => ?_
  refine gives_pure (tidy_of_plain rfl ?_)
  simp only [tidyParts_append, tidyParts_parameters, tidyParts_stmts, tidyParts_exprs, tidyParts_option]
  exact ⟨⟨⟨fit, inner⟩, fits⟩, last⟩

theorem gives_classDefinition {decorations : List Expr} (fits : ∀ value ∈ decorations, value.Plain) :
    Gives (classDefinition self fuel decorations) fun stmt => stmt.outline.Tidy := by
  have bases : Gives (do
      mark "("
      let found ← attempt (Levels.arguments (Expr.read fuel) fuel)
      mark ")"
      return found.getD []) fun found => ∀ argument ∈ found, argument.Plain :=
    gives_after fun _ => (Levels.gives_arguments (Expr.gives_read fuel) fuel).attempt.bind
      fun _ given => gives_after fun _ => gives_pure (forall_mem_getD given)
  refine gives_after fun _ => gives_after fun _ => gives_after fun _ => ?_
  refine bases.attempt.bind fun found given => gives_after fun _ => ?_
  refine (gives_block tidy fuel _ _).bind fun body inner => gives_pure (tidy_of_plain rfl ?_)
  simp only [tidyParts_append, tidyParts_exprs, tidyParts_keywords, tidyParts_stmts]
  have each := forall_mem_getD given
  exact ⟨⟨⟨positionals_plain each, keywords_tidy each⟩, inner⟩, fits⟩

theorem gives_handler (groups : Bool) :
    Gives (handler self fuel groups) fun found => found.outline.Tidy := by
  refine Gives.orMistake (gives_after fun line => gives_after fun _ => gives_guarded fun _ => ?_)
  extract_lets owner close
  have body := gives_block tidy fuel owner line
  have given : ∀ bare, Gives (close bare) fun found => found.outline.Tidy := by
    intro bare
    refine Gives.ite ?_ ?_
    · refine body.bind fun found inner => gives_pure (tidy_of_plain rfl ?_)
      rw [tidyParts_append, tidyParts_stmts]
      exact ⟨tidyParts_nil, inner⟩
    refine (Expr.gives_read fuel .expression).bind fun error fit => ?_
    refine gives_after fun _ => gives_after fun _ => body.bind fun found inner => ?_
    refine gives_pure (tidy_of_plain rfl ?_)
    rw [tidyParts_append, tidyParts_option, tidyParts_stmts]
    exact ⟨by simpa using fit, inner⟩
  exact Gives.ite (gives_after given) (gives_after given)

theorem gives_finallyBlock :
    Gives (finallyBlock self fuel) fun found => ∀ stmt ∈ found, stmt.outline.Tidy :=
  gives_after fun _ => gives_after fun _ => gives_after fun _ => gives_block tidy fuel _ _

theorem gives_tryStatement : Gives (tryStatement self fuel) fun stmt => stmt.outline.Tidy := by
  have last := gives_finallyBlock tidy fuel
  refine gives_after fun _ => gives_after fun _ => gives_after fun _ => ?_
  refine (gives_block tidy fuel _ _).bind fun body inner => gives_after fun _ => gives_after fun _ => ?_
  refine gives_after fun _ => Gives.ite ?_ ?_
  · refine last.bind fun cleanup fits => gives_pure (tidy_of_plain rfl ?_)
    simp only [tidyParts_append, tidyParts_stmts, tidyParts_handlers]
    exact ⟨⟨⟨inner, by simp⟩, by simp⟩, fits⟩
  refine ((gives_handler tidy fuel _).many1 fuel).attempt.bind fun plain handled => ?_
  extract_lets close
  have given : ∀ handlers, (∀ handler ∈ handlers, handler.outline.Tidy) →
      Gives (close handlers) fun stmt => stmt.outline.Tidy := by
    intro handlers each
    refine gives_after fun _ => gives_after fun _ => ?_
    refine (gives_optionalElse tidy fuel).bind fun otherwise fits => ?_
    refine last.attempt.bind fun cleanup ends => gives_pure (tidy_of_plain rfl ?_)
    simp only [tidyParts_append, tidyParts_stmts, tidyParts_handlers]
    exact ⟨⟨⟨inner, each⟩, fits⟩, forall_mem_getD ends⟩
  split
  · exact (gives_pure (handled _ rfl)).bind given
  · exact ((gives_handler tidy fuel _).many1 fuel).bind given

omit tidy in
theorem gives_subject : Gives (subject fuel) Expr.Plain := by
  have item := Levels.gives_starNamed (Expr.gives_read fuel)
  refine item.bind fun first fit => gives_after fun _ => Gives.ite ?_ ?_
  · refine (item.separated fuel).attempt.bind fun others fits => ?_
    split
    · exact gives_pure (Expr.plain_tuple.mpr (List.forall_mem_singleton.mpr fit))
    · refine gives_after fun _ => gives_pure (Expr.plain_tuple.mpr ?_)
      exact List.forall_mem_cons.mpr ⟨fit, fits _ rfl⟩
  · exact Gives.ite gives_stuck (gives_pure fit)

theorem gives_case : Gives (case self fuel) fun found => found.outline.Tidy := by
  refine gives_after fun _ => gives_after fun _ => ?_
  refine (Pattern.gives_readOpen fuel).bind fun pattern fit => ?_
  have condition := Levels.gives_named (Expr.gives_read fuel)
  refine (Gives.attempt (gives_after fun _ => condition)).bind fun guard fits => gives_after fun _ => ?_
  refine (gives_block tidy fuel _ _).bind fun body inner => gives_pure (tidy_of_plain rfl ?_)
  have first : TidyParts [] (patternOutlines [pattern]) :=
    tidyParts_patterns.mpr (List.forall_mem_singleton.mpr fit)
  have rest : TidyParts [] (optionOutline guard ++ stmtOutlines body) := by
    rw [tidyParts_append, tidyParts_option, tidyParts_stmts]
    exact ⟨fits, inner⟩
  exact tidyParts_append.mpr ⟨first, rest⟩

theorem gives_matchStatement : Gives (matchStatement self fuel) fun stmt => stmt.outline.Tidy := by
  refine gives_after fun _ => (gives_subject fuel).bind fun value fit => ?_
  refine gives_after fun _ => gives_after fun _ => gives_after fun _ => ?_
  refine ((gives_case tidy fuel).many1 fuel).bind fun cases fits => gives_after fun _ => ?_
  refine gives_pure (tidy_of_plain rfl ?_)
  rw [tidyParts_expr, tidyParts_cases]
  exact ⟨fit, fits⟩

theorem gives_statement :
    Gives (statement self fuel) fun found => ∀ stmt ∈ found, stmt.outline.Tidy := by
  have given : ∀ {reader : Reader Stmt}, Gives reader (fun stmt => stmt.outline.Tidy) →
      Gives (do return [← reader]) fun found => ∀ stmt ∈ found, stmt.outline.Tidy :=
    fun all => all.bind fun stmt fit => gives_pure (List.forall_mem_singleton.mpr fit)
  refine gives_after fun lexeme => ?_
  split
  · exact given (gives_functionDefinition tidy fuel false (by simp))
  · refine (gives_decorators fuel).bind fun decorations fits => gives_after fun lexeme => ?_
    split
    · exact given (gives_classDefinition tidy fuel fits)
    · exact gives_after fun _ => given (gives_functionDefinition tidy fuel true fits)
    · exact given (gives_functionDefinition tidy fuel false fits)
  · refine gives_after fun _ => gives_after fun lexeme => ?_
    split
    · exact given (gives_functionDefinition tidy fuel true (by simp))
    · exact given (gives_withStatement tidy fuel true)
    · exact given (gives_forStatement tidy fuel true)
  · exact given (gives_ifStatement tidy fuel)
  · exact given (gives_classDefinition tidy fuel (by simp))
  · exact given (gives_withStatement tidy fuel false)
  · exact given (gives_forStatement tidy fuel false)
  · exact given (gives_tryStatement tidy fuel)
  · exact given (gives_whileStatement tidy fuel)
  · refine gives_after fun _ => (gives_matchStatement tidy fuel).attempt.bind fun found fits => ?_
    split
    · exact gives_pure (List.forall_mem_singleton.mpr (fits _ rfl))
    · exact gives_after fun _ => gives_simpleLine fuel
  · exact gives_simpleLine fuel

end StatementReader

theorem Stmt.gives_read (fuel : Nat) :
    Gives (Stmt.read fuel) fun found => ∀ stmt ∈ found, stmt.outline.Tidy := by
  induction fuel with
  | zero => exact gives_stuck
  | succ fuel ih => exact StatementReader.gives_statement ih fuel

theorem gives_program (fuel : Nat) : Gives (program fuel) fun found => found.outline.Tidy := by
  refine ((Stmt.gives_read fuel).many fuel).bind fun found fits => gives_after fun _ => ?_
  exact gives_pure (tidy_of_plain rfl (tidyParts_stmts.mpr (List.forall_mem_flatten.mpr fits)))

/-- In a program that is read, the targets and no other expressions are marked for binding. -/
theorem Program.parse_tidy {text : String} {found : Program} (parsed : Program.parse text = .ok found) :
    found.outline.Tidy := by
  have spelled := spelled_of_parse parsed
  rw [Program.ofTokens?] at spelled
  split at spelled
  · cases spelled
  · split at spelled
    · next ran =>
      cases spelled
      exact (gives_program _).run ran
    · cases spelled

end Refactory.Source
