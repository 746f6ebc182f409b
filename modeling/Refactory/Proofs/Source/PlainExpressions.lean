import Refactory.Proofs.Source.Contexts
import Refactory.Proofs.Source.Giving
import Refactory.Source.Expression

/-! Expressions as they are read.

An expression that is read is plain at every level: inside it the targets of walruses and comprehensions
are marked for binding, and nothing else is. The readers of one level are followed with the readers of all
levels taken to give plain expressions, and `Expr.read` closes the circle by induction on its fuel.
-/

set_option autoImplicit false

namespace Refactory.Source

open Outline Reader

/-! ## Formatted literals -/

namespace Format

theorem prependText_plain (points : List Nat) {parts : List Expr}
    (plain : ∀ part ∈ parts, part.Plain) : ∀ part ∈ prependText points parts, part.Plain := by
  rw [prependText.eq_def]
  split
  · exact plain
  · exact List.forall_mem_cons.mpr ⟨Expr.plain_constant _, (List.forall_mem_cons.mp plain).2⟩
  · exact List.forall_mem_cons.mpr ⟨Expr.plain_constant _, plain⟩

theorem parts_plain {readField : List Char → List Char → Except Report Expr}
    (fields : ∀ left chars, Delivers (readField left chars) Expr.Plain) (raw : Bool) (fuel : Nat) :
    ∀ level chars, Delivers (parts readField raw fuel level chars) fun found =>
      ∀ part ∈ found.1, part.Plain := by
  induction fuel with
  | zero => exact fun _ _ => delivers_error
  | succ fuel ih =>
    intro level chars
    rw [parts]
    refine delivers_after ?_
    rintro ⟨length, stop, rest⟩
    refine delivers_after fun points => ?_
    dsimp -zeta only
    split
    · refine (ih level _).bind ?_
      rintro ⟨more, left⟩ fits
      exact delivers_pure (prependText_plain points fits)
    · -- a field: two checks, its expression, its format, and the parts behind it
      refine delivers_guarded fun _ => delivers_after fun ends => delivers_guarded fun _ => ?_
      refine (fields _ _).bind fun value fit => ?_
      extract_lets
      refine delivers_after fun conversion => ?_
      extract_lets close
      have given : ∀ format, (∀ spec ∈ format.1, spec.Plain) →
          Delivers (close format) fun found => ∀ part ∈ found.1, part.Plain := by
        intro format fits
        dsimp only [close]
        split
        · refine (ih level _).bind fun more others => delivers_pure (prependText_plain _ ?_)
          refine List.forall_mem_cons.mpr ⟨?_, others⟩
          exact (Expr.plain_iff_parts rfl rfl rfl).mpr (by simpa using ⟨fit, fits⟩)
        · exact delivers_error
      split
      · refine (ih (level + 1) _).bind fun found fits => (delivers_pure ?_).bind given
        simpa using fits
      · exact (delivers_pure (by simp)).bind given
    · exact delivers_pure (prependText_plain points (by simp))

theorem decode_plain {readField : List Char → List Char → Except Report Expr}
    (fields : ∀ left chars, Delivers (readField left chars) Expr.Plain) (raw : Bool) (body : List Char) :
    Delivers (decode readField raw body) fun found => ∀ part ∈ found, part.Plain :=
  (parts_plain fields raw _ _ _).bind fun _ fits => delivers_pure fits

end Format

namespace Levels

theorem joinParts_plain {pieces : List (List Expr)}
    (plain : ∀ piece ∈ pieces, ∀ part ∈ piece, part.Plain) : ∀ part ∈ joinParts pieces, part.Plain := by
  induction pieces with
  | nil => simp [joinParts]
  | cons piece rest ih =>
    rw [List.forall_mem_cons] at plain
    have more := ih plain.2
    rw [joinParts]
    split
    · refine List.forall_mem_append.mpr ⟨fun part member => ?_, Format.prependText_plain _ more⟩
      exact plain.1 part (List.dropLast_subset piece member)
    · exact List.forall_mem_append.mpr ⟨plain.1, more⟩

variable {self : Levels} (plain : ∀ level, Gives (self level) Expr.Plain) (limit : Nat)

include plain

/-! ## Atoms -/

theorem gives_walrus : Gives (walrus self) Expr.Plain := by
  refine gives_after fun id => gives_after fun _ => (plain .expression).bind fun value fit => gives_pure ?_
  exact ⟨rfl, tidy_node.mpr (tidyParts_target (Expr.bindable_name id) (by simpa using fit))⟩

theorem gives_named : Gives (named self) Expr.Plain := by
  refine gives_after fun _ => Gives.ite (gives_walrus plain) ?_
  refine gives_after fun _ => (plain .expression).bind fun value fit => ?_
  exact gives_after fun _ => gives_after fun _ => gives_after fun _ => gives_pure fit

theorem gives_star : Gives (star self) Expr.Plain := by
  refine gives_after fun _ => Gives.ite ?_ (plain .expression)
  exact (plain .bitOr).bind fun value fit => gives_pure (Expr.plain_starred.mpr fit)

theorem gives_starExpressions : Gives (starExpressions self limit) Expr.Plain := by
  refine (gives_star plain).bind fun first fit => gives_after fun _ => Gives.ite ?_ (gives_pure fit)
  refine (Gives.many (gives_after fun _ => gives_star plain) limit).bind fun others fits => ?_
  exact gives_after fun _ => gives_pure (Expr.plain_tuple.mpr (List.forall_mem_cons.mpr ⟨fit, fits⟩))

theorem gives_starNamed : Gives (starNamed self) Expr.Plain := by
  refine gives_after fun _ => Gives.ite ?_ (gives_named plain)
  exact (plain .bitOr).bind fun value fit => gives_pure (Expr.plain_starred.mpr fit)

theorem gives_yielded : Gives (yielded self limit) Expr.Plain := by
  refine gives_after fun _ => gives_after fun _ => Gives.ite ?_ ?_
  · refine (plain .expression).bind fun value fit => gives_pure ?_
    exact (Expr.plain_iff_parts rfl rfl rfl).mpr (by simpa using fit)
  · refine (gives_starExpressions plain limit).attempt.bind fun value fit => gives_pure ?_
    exact (Expr.plain_iff_parts rfl rfl rfl).mpr (tidyParts_option.mpr fit)

theorem readField_plain (line : Nat) (body left chars : List Char) :
    Delivers (readField self limit line body left chars) Expr.Plain := by
  refine ⟨fun done => ?_⟩
  rw [readField] at done
  split at done
  · next value after found =>
    cases done
    exact (gives_starExpressions plain limit).run found
  · cases done

theorem literalValue_plain (previous : Option LiteralKind) (line : Nat) (literal : StringLiteral) :
    Delivers (literalValue self limit previous line literal) fun value => ∀ part ∈ value.parts, part.Plain := by
  rw [literalValue]
  split
  · refine delivers_after fun codes => delivers_after fun _ => delivers_pure ?_
    simp [LiteralValue.parts]
  · refine delivers_after fun points => delivers_after fun _ => delivers_pure ?_
    exact Format.prependText_plain points (by simp)
  · refine delivers_after fun _ => ?_
    exact (Format.decode_plain (readField_plain plain limit line _) _ _).bind fun parts fits => delivers_pure fits

theorem literalValues_plain (previous : Option LiteralKind) (literals : List (Nat × StringLiteral)) :
    Delivers (literalValues self limit previous literals) fun values =>
      ∀ value ∈ values, ∀ part ∈ value.parts, part.Plain := by
  induction literals generalizing previous with
  | nil => exact delivers_pure (by simp)
  | cons literal rest ih =>
    refine (literalValue_plain plain limit previous literal.1 literal.2).bind fun value fit => ?_
    exact (ih _).bind fun values fits => delivers_pure (List.forall_mem_cons.mpr ⟨fit, fits⟩)

theorem combine_plain (literals : List (Nat × StringLiteral)) :
    Delivers (combine self limit literals) Expr.Plain := by
  refine (literalValues_plain plain limit none literals).bind fun values fits => ?_
  have joined : ∀ part ∈ joinParts (values.map (·.parts)), part.Plain :=
    joinParts_plain (List.forall_mem_map.mpr fits)
  dsimp only
  split
  · exact delivers_pure (Expr.plain_constant _)
  · split
    · exact delivers_pure (Expr.plain_formatted.mpr joined)
    · split
      · next value whole =>
        rw [whole] at joined
        exact delivers_pure (joined value (by simp))
      · exact delivers_pure (Expr.plain_constant _)

theorem gives_strings : Gives (strings self limit) Expr.Plain := by
  refine gives_after fun literals => ?_
  split
  · next value whole => exact gives_pure ((combine_plain plain limit literals).run whole)
  · exact gives_failWith

theorem gives_starTarget : Gives (starTarget self) Expr.Bindable := by
  refine gives_after fun isStarred => (plain .primary).bind fun value fit => ?_
  split
  · next target found =>
    have bindable := fit.asTarget found
    refine gives_pure ?_
    split
    · exact ⟨rfl, tidy_node.mpr (tidyParts_target bindable tidyParts_nil)⟩
    · exact bindable
  · exact gives_stuck

theorem gives_starTargets : Gives (starTargets self limit) Expr.Bindable := by
  refine (gives_starTarget plain).bind fun first fit => gives_after fun _ => Gives.ite ?_ (gives_pure fit)
  refine (Gives.many (gives_after fun _ => gives_starTarget plain) limit).bind fun others fits => ?_
  refine gives_after fun _ => gives_pure ⟨rfl, tidy_node.mpr (tidyParts_targets.mpr ?_)⟩
  exact List.forall_mem_cons.mpr ⟨fit, fits⟩

theorem gives_loopTarget : Gives (loopTarget self limit) Expr.Bindable := by
  refine Gives.orMistake (gives_after fun _ => (gives_starTargets plain limit).bind fun target bound => ?_)
  exact gives_after fun _ => gives_pure bound

theorem gives_clause : Gives (clause self limit) fun clause => clause.outline.Tidy := by
  refine gives_after fun _ => (gives_loopTarget plain limit).bind fun target bound => ?_
  refine (plain .disjunction).bind fun source fit => ?_
  refine (Gives.many (gives_after fun _ => plain .disjunction) limit).bind fun conditions fits => ?_
  exact gives_pure (tidy_node.mpr (tidyParts_target bound (by simpa using ⟨fit, fits⟩)))

theorem gives_clauses :
    Gives (clauses self limit) fun found => ∀ clause ∈ found, clause.outline.Tidy :=
  (gives_clause plain limit).many1 limit

theorem gives_displayRest (start : Cursor) {first : Expr} (fit : first.Plain) (closing : String) :
    Gives (displayRest self limit start first closing) fun found => ∀ item ∈ found, item.Plain := by
  refine (Gives.many (gives_after fun _ => gives_starNamed plain) limit).bind fun others fits => ?_
  refine gives_after fun _ => gives_after fun _ => gives_after fun _ => gives_after fun _ => gives_pure ?_
  exact List.forall_mem_cons.mpr ⟨fit, fits⟩

theorem gives_parenthesised : Gives (parenthesised self limit) Expr.Plain := by
  refine gives_after fun _ => gives_after fun _ => Gives.ite (gives_pure (by simp)) ?_
  refine gives_after fun _ => Gives.ite ?_ ?_
  · exact (gives_yielded plain limit).bind fun value fit => gives_after fun _ => gives_pure fit
  refine gives_after fun start => (gives_starNamed plain).bind fun first fit => ?_
  refine gives_after fun _ => Gives.ite ?_ ?_
  · exact (gives_displayRest plain limit start fit _).bind fun items fits =>
      gives_pure (Expr.plain_tuple.mpr fits)
  refine Gives.ite gives_stuck (gives_after fun _ => Gives.ite ?_ ?_)
  · refine (gives_clauses plain limit).bind fun found fits => gives_after fun _ => gives_pure ?_
    exact Expr.plain_generator.mpr ⟨fit, fits⟩
  · exact gives_after fun _ => gives_pure fit

theorem gives_bracketed : Gives (bracketed self limit) Expr.Plain := by
  refine gives_after fun _ => gives_after fun _ => Gives.ite ?_ ?_
  · exact gives_pure ((Expr.plain_iff_parts rfl rfl rfl).mpr (by simp))
  refine gives_after fun start => (gives_starNamed plain).bind fun first fit => ?_
  refine gives_after fun _ => Gives.ite ?_ ?_
  · refine (gives_clauses plain limit).bind fun found fits => gives_after fun _ => gives_pure ?_
    exact (Expr.plain_iff_parts rfl rfl rfl).mpr (by simpa using ⟨fit, fits⟩)
  · refine (gives_displayRest plain limit start fit _).bind fun items fits => gives_pure ?_
    exact (Expr.plain_iff_parts rfl rfl rfl).mpr (tidyParts_exprs.mpr fits)

theorem gives_dictItem : Gives (dictItem self) DictItem.Plain := by
  refine gives_after fun _ => Gives.ite ?_ ?_
  · exact (plain .bitOr).bind fun value fit => gives_pure fit
  · refine (plain .expression).bind fun key fit => gives_after fun _ => ?_
    exact (plain .expression).bind fun value fits => gives_pure ⟨fit, fits⟩

theorem gives_dictRest {first : DictItem} (fit : first.Plain) :
    Gives (dictRest self limit first) Expr.Plain := by
  refine (Gives.many (gives_after fun _ => gives_dictItem plain) limit).bind fun others fits => ?_
  refine gives_after fun _ => gives_after fun _ => gives_after fun _ => gives_after fun _ => gives_pure ?_
  have items := tidyParts_items (List.forall_mem_cons.mpr ⟨fit, fits⟩)
  exact (Expr.plain_iff_parts rfl rfl rfl).mpr (tidyParts_append.mpr items)

theorem gives_setFrom (start : Cursor) {first : Expr} (fit : first.Plain) :
    Gives (setFrom self limit start first) Expr.Plain := by
  refine gives_after fun _ => Gives.ite ?_ ?_
  · refine (gives_clauses plain limit).bind fun found fits => gives_after fun _ => gives_pure ?_
    exact (Expr.plain_iff_parts rfl rfl rfl).mpr (by simpa using ⟨fit, fits⟩)
  · refine (gives_displayRest plain limit start fit _).bind fun items fits => gives_pure ?_
    exact (Expr.plain_iff_parts rfl rfl rfl).mpr (tidyParts_exprs.mpr fits)

theorem gives_spreadFirst : Gives (spreadFirst self limit) Expr.Plain := by
  refine gives_after fun _ => gives_after fun _ => (plain .bitOr).bind fun value fit => ?_
  exact gives_after fun _ => gives_after fun _ => gives_dictRest plain limit fit

theorem gives_braced : Gives (braced self limit) Expr.Plain := by
  refine gives_after fun _ => gives_after fun start => gives_after fun _ => Gives.ite ?_ ?_
  · exact gives_pure ((Expr.plain_iff_parts rfl rfl rfl).mpr (by simp [keyOutlines, valueOutlines]))
  refine gives_after fun _ => Gives.ite (gives_spreadFirst plain limit) ?_
  refine gives_after fun _ => gives_after fun _ => Gives.ite ?_ ?_
  · exact (gives_starNamed plain).bind fun first fit => gives_setFrom plain limit start fit
  refine (plain .expression).bind fun first fit => gives_after fun _ => ?_
  refine gives_after fun _ => Gives.ite ?_ ?_
  · refine (plain .expression).orMistake.bind fun value fits => gives_after fun _ => Gives.ite ?_ ?_
    · refine (gives_clauses plain limit).bind fun found tidy => gives_after fun _ => gives_pure ?_
      exact (Expr.plain_iff_parts rfl rfl rfl).mpr (by simpa using ⟨fit, fits, tidy⟩)
    · exact gives_dictRest plain limit ⟨fit, fits⟩
  · exact gives_after fun _ => gives_setFrom plain limit start fit

theorem gives_atom : Gives (atom self limit) Expr.Plain := by
  refine gives_after fun lexeme => ?_
  split
  · exact gives_after fun id => gives_pure (Expr.plain_name id)
  · exact gives_after fun _ => gives_pure (Expr.plain_constant _)
  · exact gives_strings plain limit
  · exact gives_after fun _ => gives_pure (Expr.plain_constant _)
  · exact gives_after fun _ => gives_pure (Expr.plain_constant _)
  · exact gives_after fun _ => gives_pure (Expr.plain_constant _)
  · exact (gives_parenthesised plain limit).orMistake
  · exact (gives_bracketed plain limit).orMistake
  · exact (gives_braced plain limit).orMistake
  · exact gives_after fun _ => gives_pure (Expr.plain_constant _)
  · exact gives_stuck

end Levels

/-! ## Calls and subscripts -/

def Argument.Plain : Argument → Prop
  | .positional value => value.Plain
  | .keyword found => found.outline.Tidy

theorem Keyword.tidy_iff {name : Option String} {value : Expr} :
    (Keyword.mk name value).outline.Tidy ↔ value.Plain :=
  tidy_node.trans (by simp [Node.targets])

theorem positionals_plain {arguments : List Argument} (plain : ∀ argument ∈ arguments, argument.Plain) :
    ∀ value ∈ arguments.filterMap (·.positional?), value.Plain := by
  intro value member
  obtain ⟨argument, member, found⟩ := List.mem_filterMap.mp member
  cases argument with
  | positional given =>
    cases found
    exact plain _ member
  | keyword given => cases found

theorem keywords_tidy {arguments : List Argument} (plain : ∀ argument ∈ arguments, argument.Plain) :
    ∀ keyword ∈ arguments.filterMap (·.keyword?), keyword.outline.Tidy := by
  intro keyword member
  obtain ⟨argument, member, found⟩ := List.mem_filterMap.mp member
  cases argument with
  | positional given => cases found
  | keyword given =>
    cases found
    exact plain _ member

namespace Levels

variable {self : Levels} (plain : ∀ level, Gives (self level) Expr.Plain) (limit : Nat)

include plain

theorem gives_starredArgument :
    Gives (do return Argument.positional (.starred (← self .expression) .load)) Argument.Plain :=
  (plain .expression).bind fun _ fit => gives_pure (Expr.plain_starred.mpr fit)

theorem gives_positionalArgument : Gives (positionalArgument self) Argument.Plain := by
  refine gives_after fun _ => Gives.ite (gives_starredArgument plain) (gives_after fun _ => ?_)
  extract_lets close
  have given : ∀ value, value.Plain → Gives (close value) Argument.Plain :=
    fun value fit => gives_after fun _ => gives_pure fit
  refine Gives.ite ((gives_walrus plain).bind given) ?_
  refine (plain .expression).bind fun value fit => gives_after fun _ => ?_
  exact (gives_pure fit).bind given

theorem gives_namedArgument : Gives (namedArgument self) Argument.Plain := by
  refine gives_after fun name => gives_after fun _ => ?_
  exact (plain .expression).bind fun value fit => gives_pure (Keyword.tidy_iff.mpr fit)

theorem gives_keywordOrStarred : Gives (keywordOrStarred self limit) Argument.Plain := by
  refine gives_after fun _ => gives_after fun _ => gives_after fun _ => ?_
  exact Gives.ite (gives_starredArgument plain) (gives_namedArgument plain)

theorem gives_keywordOrMapping : Gives (keywordOrMapping self limit) Argument.Plain := by
  refine gives_after fun _ => gives_after fun _ => gives_after fun _ => ?_
  refine Gives.ite ?_ (gives_namedArgument plain)
  exact (plain .expression).bind fun value fit => gives_pure (Keyword.tidy_iff.mpr fit)

theorem gives_keywordArguments :
    Gives (keywordArguments self limit) fun found => ∀ argument ∈ found, argument.Plain := by
  have mappings := (gives_keywordOrMapping plain limit).separated limit
  refine ((gives_keywordOrStarred plain limit).separated limit).attempt.bind fun first fits => ?_
  split
  · exact mappings
  · refine (Gives.attempt (gives_after fun _ => mappings)).bind fun second others => gives_pure ?_
    exact List.forall_mem_append.mpr ⟨fits _ rfl, forall_mem_getD others⟩

theorem gives_argumentList :
    Gives (argumentList self limit) fun found => ∀ argument ∈ found, argument.Plain := by
  have keywords := gives_keywordArguments plain limit
  refine ((gives_positionalArgument plain).separated limit).attempt.bind fun first fits => ?_
  split
  · exact keywords
  · refine (Gives.attempt (gives_after fun _ => keywords)).bind fun second others => gives_pure ?_
    exact List.forall_mem_append.mpr ⟨fits _ rfl, forall_mem_getD others⟩

theorem gives_arguments :
    Gives (arguments self limit) fun found => ∀ argument ∈ found, argument.Plain := by
  refine gives_after fun _ => (gives_argumentList plain limit).bind fun found fits => ?_
  refine gives_after fun _ => gives_after fun _ => gives_after fun _ => Gives.ite (gives_pure fits) ?_
  exact gives_after fun _ => gives_stuck

theorem gives_callArguments :
    Gives (callArguments self limit) fun found => ∀ argument ∈ found, argument.Plain := by
  refine gives_after fun _ => (gives_argumentList plain limit).bind fun found fits => ?_
  refine gives_after fun _ => ?_
  extract_lets close
  have given : ∀ generator, (∀ value ∈ generator, value.Plain) →
      Gives (close generator) fun found => ∀ argument ∈ found, argument.Plain := by
    intro generator fit
    cases generator with
    | some value => exact gives_pure (by simpa [Argument.Plain] using fit)
    | none =>
      refine gives_after fun _ => gives_after fun _ => Gives.ite (gives_pure fits) ?_
      exact gives_after fun _ => gives_stuck
  split
  · next value =>
    refine Gives.ite ((gives_pure (by simp)).bind given) (Gives.bind ?_ given)
    refine Gives.attempt ((gives_clauses plain limit).bind fun clauses tidy => ?_)
    have element : value.Plain := fits (.positional value) (by simp)
    exact gives_after fun _ => gives_pure (Expr.plain_generator.mpr ⟨element, tidy⟩)
  · exact (gives_pure (by simp)).bind given

theorem gives_optionalExpression :
    Gives (optionalExpression self) fun found => ∀ value ∈ found, value.Plain :=
  (plain .expression).attempt

theorem gives_sliceFrom {lower : Option Expr} (fit : ∀ value ∈ lower, value.Plain) :
    Gives (sliceFrom self lower) Expr.Plain := by
  have optional := gives_optionalExpression plain
  refine gives_after fun _ => optional.bind fun upper fits => gives_after fun _ => ?_
  refine gives_either optional (gives_pure (by simp)) fun step last => ?_
  refine gives_pure ((Expr.plain_iff_parts rfl rfl rfl).mpr ?_)
  simp only [tidyParts_append, tidyParts_option]
  exact ⟨⟨fit, fits⟩, last⟩

theorem gives_sliceItem : Gives (sliceItem self) Expr.Plain := by
  refine gives_after fun _ => Gives.ite (gives_sliceFrom plain (by simp)) ?_
  refine gives_after fun _ => Gives.ite (gives_walrus plain) (gives_after fun _ => Gives.ite ?_ ?_)
  · exact (plain .expression).bind fun value fit => gives_pure (Expr.plain_starred.mpr fit)
  refine gives_after fun _ => (plain .expression).bind fun value fit => gives_after fun _ => ?_
  refine Gives.ite (gives_sliceFrom plain (by simpa using fit)) ?_
  exact gives_after fun _ => gives_after fun _ => gives_after fun _ => gives_pure fit

theorem gives_slices : Gives (slices self limit) Expr.Plain := by
  refine (gives_sliceItem plain).bind fun first fit => gives_after fun _ => Gives.ite ?_ (gives_pure fit)
  refine (Gives.many (gives_after fun _ => gives_sliceItem plain) limit).bind fun others fits => ?_
  exact gives_after fun _ => gives_pure (Expr.plain_tuple.mpr (List.forall_mem_cons.mpr ⟨fit, fits⟩))

theorem gives_trailer {value : Expr} (fit : value.Plain) : Gives (trailer self limit value) Expr.Plain := by
  refine gives_after fun lexeme => ?_
  split
  · exact gives_after fun _ => gives_after fun _ => gives_pure (Expr.plain_attribute.mpr fit)
  · refine gives_after fun _ => gives_after fun _ => gives_after fun _ => gives_after fun _ => Gives.ite ?_ ?_
    · exact gives_pure ((Expr.plain_iff_parts rfl rfl rfl).mpr
        (by simpa [exprOutlines, keywordOutlines] using fit))
    refine (gives_callArguments plain limit).bind fun found fits => gives_after fun _ => gives_pure ?_
    refine (Expr.plain_iff_parts rfl rfl rfl).mpr ?_
    simp only [tidyParts_expr, tidyParts_append, tidyParts_exprs, tidyParts_keywords]
    exact ⟨fit, positionals_plain fits, keywords_tidy fits⟩
  · refine gives_after fun _ => (gives_slices plain limit).bind fun index fits => ?_
    refine gives_after fun _ => gives_pure ((Expr.plain_iff_parts rfl rfl rfl).mpr ?_)
    simpa using ⟨fit, fits⟩
  · exact gives_stuck

theorem gives_primary : Gives (primary self limit) Expr.Plain :=
  (gives_atom plain limit).bind fun _ fit => Gives.extend (fun _ => gives_trailer plain limit) limit fit

/-! ## Operators -/

theorem gives_awaited : Gives (awaited self limit) Expr.Plain := by
  refine gives_after fun _ => Gives.ite ?_ (gives_primary plain limit)
  refine (gives_primary plain limit).bind fun value fit => gives_pure ?_
  exact (Expr.plain_iff_parts rfl rfl rfl).mpr (by simpa using fit)

theorem gives_power : Gives (power self limit) Expr.Plain := by
  refine (gives_awaited plain limit).bind fun base fit => ?_
  refine (Gives.attempt (gives_after fun _ => plain .factor)).bind fun exponent fits => ?_
  split
  · exact gives_pure (Expr.plain_binary.mpr ⟨fit, fits _ rfl⟩)
  · exact gives_pure fit

theorem gives_factor : Gives (factor self limit) Expr.Plain := by
  have other := gives_power plain limit
  refine gives_after fun lexeme => ?_
  split
  · split
    · refine gives_after fun _ => (plain .factor).bind fun value fit => gives_pure ?_
      exact Expr.plain_unary.mpr fit
    · exact other
  · exact other

theorem gives_binary (tables : List (List (String × BinaryOperator))) :
    Gives (binary self limit tables) Expr.Plain := by
  induction tables with
  | nil => exact gives_factor plain limit
  | cons ops tighter ih =>
    -- both operands are of the tighter level, and the left one grows
    refine ih.bind fun first fit => Gives.extend (fun left fits => ?_) limit fit
    refine gives_after fun op => ih.bind fun right last => gives_pure ?_
    exact Expr.plain_binary.mpr ⟨fits, last⟩

theorem gives_bitOr : Gives (bitOr self limit) Expr.Plain :=
  gives_binary plain limit binaryOperators

theorem gives_comparison : Gives (comparison self limit) Expr.Plain := by
  have operand := gives_bitOr plain limit
  have pair : Gives (do
      let op ← comparisonOperator
      return (op, ← bitOr self limit)) fun found => found.2.Plain :=
    gives_after fun _ => operand.bind fun _ fit => gives_pure fit
  refine operand.bind fun left fit => (pair.many limit).bind fun others fits => ?_
  refine Gives.ite (gives_pure fit) (gives_pure ((Expr.plain_iff_parts rfl rfl rfl).mpr ?_))
  rw [tidyParts_expr, tidyParts_exprs, List.forall_mem_map]
  exact ⟨fit, fits⟩

theorem gives_inversion : Gives (inversion self limit) Expr.Plain := by
  refine gives_after fun _ => Gives.ite ?_ (gives_comparison plain limit)
  exact (plain .inversion).bind fun value fit => gives_pure (Expr.plain_unary.mpr fit)

omit plain in
theorem gives_joined {operand : Reader Expr} (all : Gives operand Expr.Plain) (op : BoolOperator)
    (joint : String) : Gives (joined limit op joint operand) Expr.Plain := by
  refine all.bind fun first fit => (Gives.many (gives_after fun _ => all) limit).bind fun others fits => ?_
  refine Gives.ite (gives_pure fit) (gives_pure ((Expr.plain_iff_parts rfl rfl rfl).mpr ?_))
  exact tidyParts_exprs.mpr (List.forall_mem_cons.mpr ⟨fit, fits⟩)

theorem gives_disjunction : Gives (disjunction self limit) Expr.Plain :=
  gives_joined limit (gives_joined limit (gives_inversion plain limit) .and "and") .or "or"

/-! ## Parameters -/

omit plain in
theorem tidy_parameter {kind : ParameterKind} {name : String} {typeHint value : Option Expr}
    (hint : ∀ found ∈ typeHint, found.Plain) (fit : ∀ found ∈ value, found.Plain) :
    (Parameter.mk kind name typeHint value).outline.Tidy := by
  refine tidy_of_plain rfl ?_
  simp only [tidyParts_append, tidyParts_option]
  exact ⟨hint, fit⟩

theorem gives_parameterName (closing : String) :
    Gives (parameterName self closing) fun found => ∀ typeHint ∈ found.2, typeHint.Plain := by
  refine gives_after fun name => Gives.ite (gives_pure (by simp)) (gives_after fun _ => Gives.ite ?_ ?_)
  · exact (plain .expression).bind fun typeHint fit => gives_pure (by simpa using fit)
  · exact gives_pure (by simp)

theorem gives_plainParameter (closing : String) (kind : ParameterKind) :
    Gives (plainParameter self closing kind) fun found => found.outline.Tidy := by
  refine (gives_parameterName plain closing).bind fun found fit => gives_after fun _ => ?_
  exact gives_pure (tidy_parameter fit (by simp))

theorem gives_defaultParameter (closing : String) (kind : ParameterKind) :
    Gives (defaultParameter self closing kind) fun found => found.outline.Tidy := by
  refine (gives_parameterName plain closing).bind fun found fit => gives_after fun _ => gives_after fun _ => ?_
  refine (plain .expression).orMistake.bind fun value fits => gives_after fun _ => ?_
  exact gives_pure (tidy_parameter fit (by simpa using fits))

theorem gives_anyParameter (closing : String) (kind : ParameterKind) :
    Gives (anyParameter self closing kind) fun found => found.outline.Tidy := by
  refine (gives_parameterName plain closing).bind fun found fit => ?_
  refine gives_after fun equals => gives_after fun _ => ?_
  have value : Gives (some <$> defaultValue self equals) fun value => ∀ found ∈ value, found.Plain :=
    (plain .expression).orMistake.bind fun value fits => gives_pure (by simpa using fits)
  refine gives_either value (gives_pure (by simp)) fun value fits => gives_after fun _ => ?_
  exact gives_pure (tidy_parameter fit fits)

theorem gives_restParameter (closing : String) :
    Gives (restParameter self closing) fun found => found.outline.Tidy := by
  refine (gives_plainParameter plain closing _).orElse (gives_after fun name => gives_guarded fun _ => ?_)
  refine gives_after fun _ => (gives_star plain).bind fun typeHint fit => gives_after fun _ => ?_
  exact gives_pure (tidy_parameter (by simpa using fit) (by simp))

theorem gives_mappingParameter (closing : String) :
    Gives (mappingParameter self closing) fun found => ∀ parameter ∈ found, parameter.outline.Tidy := by
  refine gives_after fun _ => gives_after fun _ => gives_after fun _ => ?_
  refine (gives_plainParameter plain closing _).bind fun found tidy => gives_pure ?_
  exact List.forall_mem_singleton.mpr tidy

theorem gives_starParameters (closing : String) :
    Gives (starParameters self limit closing) fun found => ∀ parameter ∈ found, parameter.outline.Tidy := by
  have keywords := gives_anyParameter plain closing .keywordOnly
  have mapping := gives_mappingParameter plain closing
  refine gives_after fun _ => gives_after fun _ => gives_after fun _ => ?_
  refine Gives.ite (gives_after fun _ => ?_) mapping
  extract_lets close
  have given : ∀ found, (∀ parameter ∈ found, parameter.outline.Tidy) →
      Gives (close found) fun found => ∀ parameter ∈ found, parameter.outline.Tidy := by
    intro found tidy
    refine mapping.attempt.bind fun last others => gives_pure ?_
    exact List.forall_mem_append.mpr ⟨tidy, forall_mem_getD others⟩
  refine Gives.ite ((keywords.many1 limit).bind given) ?_
  refine (gives_restParameter plain closing).bind fun rest tidy => ?_
  refine (keywords.many limit).bind fun others tidies => (gives_pure ?_).bind given
  exact List.forall_mem_cons.mpr ⟨tidy, tidies⟩

omit plain in
theorem tidy_asPositionalOnly {parameter : Parameter} (tidy : parameter.outline.Tidy) :
    parameter.asPositionalOnly.outline.Tidy := by
  cases parameter with
  | mk kind name typeHint value => exact tidy_of_plain rfl (tidy_node.mp tidy)

theorem gives_parameters (closing : String) :
    Gives (parameters self limit closing) fun found => ∀ parameter ∈ found, parameter.outline.Tidy := by
  have bare := (gives_plainParameter plain closing .positional).many limit
  have withDefault := (gives_defaultParameter plain closing .positional).many limit
  refine gives_after fun _ => bare.bind fun first tidy => ?_
  refine withDefault.bind fun valued tidies => ?_
  have led : ∀ parameter ∈ first ++ valued, parameter.outline.Tidy :=
    List.forall_mem_append.mpr ⟨tidy, tidies⟩
  extract_lets leading close afterSlash afterLeading
  have given : ∀ found, (∀ parameter ∈ found, parameter.outline.Tidy) →
      Gives (close found) fun found => ∀ parameter ∈ found, parameter.outline.Tidy := by
    intro found fits
    refine (gives_starParameters plain limit closing).attempt.bind fun starred others => ?_
    refine gives_after fun _ => gives_after fun _ => gives_pure ?_
    exact List.forall_mem_append.mpr ⟨fits, forall_mem_getD others⟩
  have slashed : ∀ more, (∀ parameter ∈ more, parameter.outline.Tidy) →
      Gives (afterSlash more) fun found => ∀ parameter ∈ found, parameter.outline.Tidy := by
    intro more fits
    refine withDefault.bind fun moreValued others => (gives_pure ?_).bind given
    refine List.forall_mem_append.mpr ⟨List.forall_mem_append.mpr ⟨?_, fits⟩, others⟩
    exact List.forall_mem_map.mpr fun parameter member => tidy_asPositionalOnly (led parameter member)
  have whole : ∀ slash,
      Gives (afterLeading slash) fun found => ∀ parameter ∈ found, parameter.outline.Tidy := by
    intro slash
    cases slash with
    | none => exact (gives_pure led).bind given
    | some _ => exact Gives.ite (bare.bind slashed) ((gives_pure (by simp)).bind slashed)
  exact Gives.ite (gives_after whole) (gives_after whole)

/-! ## Whole expressions -/

theorem gives_lambda : Gives (lambda self limit) Expr.Plain := by
  refine gives_after fun _ => (gives_parameters plain limit _).bind fun found tidy => ?_
  refine gives_after fun _ => (plain .expression).bind fun body fit => gives_pure ?_
  exact (Expr.plain_iff_parts rfl rfl rfl).mpr (by simpa using ⟨tidy, fit⟩)

theorem gives_conditionalRest (start : Cursor) {body : Expr} (fit : body.Plain) :
    Gives (conditionalRest self start body) Expr.Plain := by
  refine gives_after fun _ => (plain .disjunction).bind fun test fits => ?_
  refine gives_after fun _ => gives_after fun _ => gives_after fun _ => ?_
  refine (plain .expression).bind fun otherwise last => gives_pure ?_
  exact (Expr.plain_iff_parts rfl rfl rfl).mpr (by simpa using ⟨fits, fit, last⟩)

theorem gives_expression : Gives (expression self limit) Expr.Plain := by
  refine gives_after fun _ => Gives.ite (gives_lambda plain limit) (gives_after fun start => ?_)
  refine (gives_disjunction plain limit).bind fun value fit => ?_
  refine gives_after fun _ => gives_after fun _ => gives_after fun _ => ?_
  refine (gives_conditionalRest plain start fit).attempt.bind fun found fits => ?_
  split
  · exact gives_pure (fits _ rfl)
  · exact gives_pure fit

theorem gives_readAt (level : Level) : Gives (readAt self limit level) Expr.Plain := by
  cases level with
  | expression => exact gives_expression plain limit
  | disjunction => exact gives_disjunction plain limit
  | inversion => exact gives_inversion plain limit
  | bitOr => exact gives_bitOr plain limit
  | factor => exact gives_factor plain limit
  | primary => exact gives_primary plain limit
  | atom => exact gives_atom plain limit

end Levels

/-- An expression that is read is plain, at whatever level. -/
theorem Expr.gives_read (fuel : Nat) (level : Level) : Gives (Expr.read fuel level) Expr.Plain := by
  -- with one more unit of fuel the readers of the parts are those of the hypothesis
  induction fuel generalizing level with
  | zero => exact gives_stuck
  | succ fuel ih => exact Levels.gives_readAt ih fuel level

end Refactory.Source
