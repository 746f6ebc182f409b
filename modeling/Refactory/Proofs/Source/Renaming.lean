import Refactory.Proofs.Source.Mentions

/-! Programs that differ in their names only.

The names that a program may call its own are those it looks up or assigns, its parameters, and its plain
functions and classes. `Program.bare` renames these and leaves out every other name, so two programs with
the same bare tree differ at most in names that no mention tells of.
-/

set_option autoImplicit false

namespace Refactory.Source

variable (rename : String → String)

/-! ## Bare trees -/

mutual

def Expr.bare : Expr → Expr
  | .constant value => .constant value
  | .name id context => .name (rename id) context
  | .attribute value _ context => .attribute value.bare "" context
  | .subscript value index context => .subscript value.bare index.bare context
  | .starred value context => .starred value.bare context
  | .list items context => .list (bareExprs items) context
  | .tuple items context => .tuple (bareExprs items) context
  | .slice lower upper step => .slice (bareOption lower) (bareOption upper) (bareOption step)
  | .boolean op operands => .boolean op (bareExprs operands)
  | .unary op operand => .unary op operand.bare
  | .binary left op right => .binary left.bare op right.bare
  | .compare left ops others => .compare left.bare ops (bareExprs others)
  | .conditional test body otherwise => .conditional test.bare body.bare otherwise.bare
  | .lambda parameters body => .lambda (bareParameters parameters) body.bare
  | .call function arguments keywords =>
      .call function.bare (bareExprs arguments) (bareKeywords keywords)
  | .binding target value => .binding target.bare value.bare
  | .dict items => .dict (bareItems items)
  | .set items => .set (bareExprs items)
  | .listComp element clauses => .listComp element.bare (bareClauses clauses)
  | .setComp element clauses => .setComp element.bare (bareClauses clauses)
  | .dictComp key value clauses => .dictComp key.bare value.bare (bareClauses clauses)
  | .generator element clauses => .generator element.bare (bareClauses clauses)
  | .await value => .await value.bare
  | .yield value => .yield (bareOption value)
  | .yieldFrom value => .yieldFrom value.bare
  | .formatted parts => .formatted (bareExprs parts)
  | .field value conversion spec => .field value.bare conversion (bareOption spec)

def bareExprs : List Expr → List Expr
  | [] => []
  | expr :: rest => expr.bare :: bareExprs rest

def bareOption : Option Expr → Option Expr
  | none => none
  | some expr => some expr.bare

def bareParameters : List Parameter → List Parameter
  | [] => []
  | .mk kind name typeHint value :: rest =>
      .mk kind (rename name) (bareOption typeHint) (bareOption value) :: bareParameters rest

def bareKeywords : List Keyword → List Keyword
  | [] => []
  | .mk _ value :: rest => .mk none value.bare :: bareKeywords rest

def bareItems : List DictItem → List DictItem
  | [] => []
  | .entry key value :: rest => .entry key.bare value.bare :: bareItems rest
  | .spread value :: rest => .spread value.bare :: bareItems rest

def bareClauses : List Clause → List Clause
  | [] => []
  | .mk target source conditions isAsync :: rest =>
      .mk target.bare source.bare (bareExprs conditions) isAsync :: bareClauses rest

end

mutual

def Pattern.bare : Pattern → Pattern
  | .value value => .value (value.bare rename)
  | .singleton value => .singleton value
  | .sequence patterns => .sequence (barePatterns patterns)
  | .mapping keys patterns _ => .mapping (bareExprs rename keys) (barePatterns patterns) none
  | .construct callee patterns _ keywordPatterns =>
      .construct (callee.bare rename) (barePatterns patterns) [] (barePatterns keywordPatterns)
  | .star _ => .star none
  | .capture inner _ => .capture (bareOptionPattern inner) none
  | .alternatives patterns => .alternatives (barePatterns patterns)

def barePatterns : List Pattern → List Pattern
  | [] => []
  | pattern :: rest => pattern.bare :: barePatterns rest

def bareOptionPattern : Option Pattern → Option Pattern
  | none => none
  | some pattern => some pattern.bare

end

def WithItem.bare (item : WithItem) : WithItem :=
  ⟨item.manager.bare rename, bareOption rename item.target⟩

mutual

def Stmt.bare : Stmt → Stmt
  | .functionDef isAsync name parameters body decorators returns =>
      .functionDef isAsync (if isAsync then "" else rename name) (bareParameters rename parameters)
        (bareStmts body) (bareExprs rename decorators) (bareOption rename returns)
  | .classDef name bases keywords body decorators =>
      .classDef (rename name) (bareExprs rename bases) (bareKeywords rename keywords) (bareStmts body)
        (bareExprs rename decorators)
  | .ret value => .ret (bareOption rename value)
  | .del targets => .del (bareExprs rename targets)
  | .assign targets value => .assign (bareExprs rename targets) (value.bare rename)
  | .augAssign target op value => .augAssign (target.bare rename) op (value.bare rename)
  | .annAssign target typeHint value simple =>
      .annAssign (target.bare rename) (typeHint.bare rename) (bareOption rename value) simple
  | .forLoop isAsync target source body otherwise =>
      .forLoop isAsync (target.bare rename) (source.bare rename) (bareStmts body) (bareStmts otherwise)
  | .whileLoop test body otherwise =>
      .whileLoop (test.bare rename) (bareStmts body) (bareStmts otherwise)
  | .ifElse test body otherwise => .ifElse (test.bare rename) (bareStmts body) (bareStmts otherwise)
  | .withBlock isAsync items body =>
      .withBlock isAsync (items.map (WithItem.bare rename)) (bareStmts body)
  | .matchOn subject cases => .matchOn (subject.bare rename) (bareCases cases)
  | .raising error cause => .raising (bareOption rename error) (bareOption rename cause)
  | .tryBlock groups body handlers otherwise last =>
      .tryBlock groups (bareStmts body) (bareHandlers handlers) (bareStmts otherwise) (bareStmts last)
  | .assertion test message => .assertion (test.bare rename) (bareOption rename message)
  | .importNames _ => .importNames []
  | .importFrom _ _ level => .importFrom none [] level
  | .globalNames _ => .globalNames []
  | .nonlocalNames _ => .nonlocalNames []
  | .expression value => .expression (value.bare rename)
  | .pass => .pass
  | .breakLoop => .breakLoop
  | .continueLoop => .continueLoop

def bareStmts : List Stmt → List Stmt
  | [] => []
  | stmt :: rest => stmt.bare :: bareStmts rest

def bareHandlers : List Handler → List Handler
  | [] => []
  | .mk error _ body :: rest => .mk (bareOption rename error) none (bareStmts body) :: bareHandlers rest

def bareCases : List Case → List Case
  | [] => []
  | .mk pattern guard body :: rest =>
      .mk (pattern.bare rename) (bareOption rename guard) (bareStmts body) :: bareCases rest

end

def Program.bare (program : Program) : Program := ⟨bareStmts rename program.body⟩

/-- The second program has the tree of the first one with its own names renamed; every other name may be
another one, wherever it stands. -/
def Program.RenamedTo (before after : Program) : Prop := after.bare id = before.bare rename

/-! ## Mentions of a bare tree -/

def Mention.map : Mention → Mention
  | .read name => .read (rename name)
  | .assigned name => .assigned (rename name)
  | .parameter name => .parameter (rename name)
  | .defined name => .defined (rename name)
  | .taken name => .taken (rename name)

theorem Mention.map_id : Mention.map id = id := by
  funext mention
  cases mention <;> rfl

theorem Mention.map_injective {rename : String → String} (injective : Function.Injective rename) :
    Function.Injective (Mention.map rename) := by
  intro first second same
  cases first <;> cases second <;> simp only [Mention.map, Mention.read.injEq, Mention.assigned.injEq,
    Mention.parameter.injEq, Mention.defined.injEq, Mention.taken.injEq, reduceCtorEq] at same ⊢
  all_goals exact injective same

mutual

theorem Expr.mentions_bare : ∀ expr : Expr,
    (expr.bare rename).mentions = expr.mentions.map (Mention.map rename)
  | .constant _ => rfl
  | .name _ context => by cases context <;> rfl
  | .attribute value _ _ | .starred value _ | .unary _ value | .await value | .yieldFrom value => by
      simp only [Expr.bare, Expr.mentions, value.mentions_bare]
  | .list items _ | .tuple items _ | .boolean _ items | .set items | .formatted items => by
      simp only [Expr.bare, Expr.mentions, exprMentions_bare items]
  | .subscript first second _ | .binary first _ second | .binding first second => by
      simp only [Expr.bare, Expr.mentions, List.map_append, first.mentions_bare, second.mentions_bare]
  | .slice lower upper step => by
      simp only [Expr.bare, Expr.mentions, List.map_append, optionMentions_bare lower,
        optionMentions_bare upper, optionMentions_bare step]
  | .compare left _ others => by
      simp only [Expr.bare, Expr.mentions, List.map_append, left.mentions_bare,
        exprMentions_bare others]
  | .conditional test body otherwise => by
      simp only [Expr.bare, Expr.mentions, List.map_append, test.mentions_bare, body.mentions_bare,
        otherwise.mentions_bare]
  | .lambda parameters body => by
      simp only [Expr.bare, Expr.mentions, List.map_append, parameterMentions_bare parameters,
        body.mentions_bare]
  | .call function arguments keywords => by
      simp only [Expr.bare, Expr.mentions, List.map_append, function.mentions_bare,
        exprMentions_bare arguments, keywordMentions_bare keywords]
  | .dict items => by simp only [Expr.bare, Expr.mentions, dictMentions_bare items]
  | .listComp element clauses | .setComp element clauses | .generator element clauses => by
      simp only [Expr.bare, Expr.mentions, List.map_append, element.mentions_bare,
        clauseMentions_bare clauses]
  | .dictComp key value clauses => by
      simp only [Expr.bare, Expr.mentions, List.map_append, key.mentions_bare, value.mentions_bare,
        clauseMentions_bare clauses]
  | .yield value => by simp only [Expr.bare, Expr.mentions, optionMentions_bare value]
  | .field value _ spec => by
      simp only [Expr.bare, Expr.mentions, List.map_append, value.mentions_bare,
        optionMentions_bare spec]

theorem exprMentions_bare : ∀ exprs : List Expr,
    exprMentions (bareExprs rename exprs) = (exprMentions exprs).map (Mention.map rename)
  | [] => rfl
  | expr :: rest => by
      simp only [bareExprs, exprMentions, List.map_append, expr.mentions_bare, exprMentions_bare rest]

theorem optionMentions_bare : ∀ expr : Option Expr,
    optionMentions (bareOption rename expr) = (optionMentions expr).map (Mention.map rename)
  | none => rfl
  | some expr => by simp only [bareOption, optionMentions, expr.mentions_bare]

theorem parameterMentions_bare : ∀ parameters : List Parameter,
    parameterMentions (bareParameters rename parameters) =
      (parameterMentions parameters).map (Mention.map rename)
  | [] => rfl
  | .mk _ _ typeHint value :: rest => by
      simp only [bareParameters, parameterMentions, List.map_append, List.map_cons, Mention.map,
        optionMentions_bare typeHint, optionMentions_bare value, parameterMentions_bare rest]

theorem keywordMentions_bare : ∀ keywords : List Keyword,
    keywordMentions (bareKeywords rename keywords) = (keywordMentions keywords).map (Mention.map rename)
  | [] => rfl
  | .mk _ value :: rest => by
      simp only [bareKeywords, keywordMentions, List.map_append, value.mentions_bare,
        keywordMentions_bare rest]

theorem dictMentions_bare : ∀ items : List DictItem,
    dictMentions (bareItems rename items) = (dictMentions items).map (Mention.map rename)
  | [] => rfl
  | .entry key value :: rest => by
      simp only [bareItems, dictMentions, List.map_append, key.mentions_bare, value.mentions_bare,
        dictMentions_bare rest]
  | .spread value :: rest => by
      simp only [bareItems, dictMentions, List.map_append, value.mentions_bare, dictMentions_bare rest]

theorem clauseMentions_bare : ∀ clauses : List Clause,
    clauseMentions (bareClauses rename clauses) = (clauseMentions clauses).map (Mention.map rename)
  | [] => rfl
  | .mk target source conditions _ :: rest => by
      simp only [bareClauses, clauseMentions, List.map_append, target.mentions_bare,
        source.mentions_bare, exprMentions_bare conditions, clauseMentions_bare rest]

end

mutual

theorem Pattern.mentions_bare : ∀ pattern : Pattern,
    (pattern.bare rename).mentions = pattern.mentions.map (Mention.map rename)
  | .value value => by simp only [Pattern.bare, Pattern.mentions, value.mentions_bare]
  | .singleton _ | .star _ => rfl
  | .sequence patterns | .alternatives patterns => by
      simp only [Pattern.bare, Pattern.mentions, patternMentions_bare patterns]
  | .mapping keys patterns _ => by
      simp only [Pattern.bare, Pattern.mentions, List.map_append, exprMentions_bare,
        patternMentions_bare patterns]
  | .construct callee patterns _ keywordPatterns => by
      simp only [Pattern.bare, Pattern.mentions, List.map_append, callee.mentions_bare,
        patternMentions_bare patterns, patternMentions_bare keywordPatterns]
  | .capture inner _ => by simp only [Pattern.bare, Pattern.mentions, optionPatternMentions_bare inner]

theorem patternMentions_bare : ∀ patterns : List Pattern,
    patternMentions (barePatterns rename patterns) = (patternMentions patterns).map (Mention.map rename)
  | [] => rfl
  | pattern :: rest => by
      simp only [barePatterns, patternMentions, List.map_append, pattern.mentions_bare,
        patternMentions_bare rest]

theorem optionPatternMentions_bare : ∀ pattern : Option Pattern,
    optionPatternMentions (bareOptionPattern rename pattern) =
      (optionPatternMentions pattern).map (Mention.map rename)
  | none => rfl
  | some pattern => by simp only [bareOptionPattern, optionPatternMentions, pattern.mentions_bare]

end

theorem withItemMentions_bare (items : List WithItem) :
    (items.map (WithItem.bare rename)).flatMap WithItem.mentions =
      (items.flatMap WithItem.mentions).map (Mention.map rename) := by
  induction items with
  | nil => rfl
  | cons item rest ih =>
    simp only [List.map_cons, List.flatMap_cons, List.map_append, WithItem.bare, WithItem.mentions,
      Expr.mentions_bare, optionMentions_bare, ih]

theorem takenParameters_bare (parameters : List Parameter) :
    (bareParameters rename parameters).filterMap Parameter.taken? =
      (parameters.filterMap Parameter.taken?).map (Mention.map rename) := by
  induction parameters with
  | nil => rfl
  | cons parameter rest ih =>
    cases parameter with
    | mk kind name typeHint value =>
      cases kind with
      | positional => exact congrArg (.taken (rename name) :: ·) ih
      | _ => exact ih

mutual

theorem Stmt.mentions_bare : ∀ stmt : Stmt,
    (stmt.bare rename).mentions = stmt.mentions.map (Mention.map rename)
  | .functionDef isAsync _ parameters body decorators returns => by
      cases isAsync <;>
      simp only [Stmt.bare, Stmt.mentions, List.map_append, List.map_cons, List.map_nil, Mention.map,
        Bool.false_eq_true, if_true, if_false, takenParameters_bare, parameterMentions_bare,
        stmtMentions_bare body, exprMentions_bare, optionMentions_bare]
  | .classDef _ bases keywords body decorators => by
      simp only [Stmt.bare, Stmt.mentions, List.map_append, List.map_cons, Mention.map,
        exprMentions_bare, keywordMentions_bare, stmtMentions_bare body]
  | .ret value => by simp only [Stmt.bare, Stmt.mentions, optionMentions_bare]
  | .del targets => by simp only [Stmt.bare, Stmt.mentions, exprMentions_bare]
  | .assign targets value => by
      simp only [Stmt.bare, Stmt.mentions, List.map_append, exprMentions_bare, value.mentions_bare]
  | .augAssign target _ value => by
      simp only [Stmt.bare, Stmt.mentions, List.map_append, target.mentions_bare, value.mentions_bare]
  | .annAssign target typeHint value _ => by
      simp only [Stmt.bare, Stmt.mentions, List.map_append, target.mentions_bare,
        typeHint.mentions_bare, optionMentions_bare]
  | .forLoop _ target source body otherwise => by
      simp only [Stmt.bare, Stmt.mentions, List.map_append, target.mentions_bare,
        source.mentions_bare, stmtMentions_bare body, stmtMentions_bare otherwise]
  | .whileLoop test body otherwise | .ifElse test body otherwise => by
      simp only [Stmt.bare, Stmt.mentions, List.map_append, test.mentions_bare,
        stmtMentions_bare body, stmtMentions_bare otherwise]
  | .withBlock _ items body => by
      simp only [Stmt.bare, Stmt.mentions, List.map_append, withItemMentions_bare,
        stmtMentions_bare body]
  | .matchOn subject cases => by
      simp only [Stmt.bare, Stmt.mentions, List.map_append, subject.mentions_bare,
        caseMentions_bare cases]
  | .raising error cause => by
      simp only [Stmt.bare, Stmt.mentions, List.map_append, optionMentions_bare]
  | .tryBlock _ body handlers otherwise last => by
      simp only [Stmt.bare, Stmt.mentions, List.map_append, stmtMentions_bare body,
        handlerMentions_bare handlers, stmtMentions_bare otherwise, stmtMentions_bare last]
  | .assertion test message => by
      simp only [Stmt.bare, Stmt.mentions, List.map_append, test.mentions_bare, optionMentions_bare]
  | .expression value => by simp only [Stmt.bare, Stmt.mentions, value.mentions_bare]
  | .importNames _ | .importFrom _ _ _ | .globalNames _ | .nonlocalNames _ | .pass | .breakLoop
  | .continueLoop => rfl

theorem stmtMentions_bare : ∀ stmts : List Stmt,
    stmtMentions (bareStmts rename stmts) = (stmtMentions stmts).map (Mention.map rename)
  | [] => rfl
  | stmt :: rest => by
      simp only [bareStmts, stmtMentions, List.map_append, stmt.mentions_bare, stmtMentions_bare rest]

theorem handlerMentions_bare : ∀ handlers : List Handler,
    handlerMentions (bareHandlers rename handlers) = (handlerMentions handlers).map (Mention.map rename)
  | [] => rfl
  | .mk error _ body :: rest => by
      simp only [bareHandlers, handlerMentions, List.map_append, optionMentions_bare,
        stmtMentions_bare body, handlerMentions_bare rest]

theorem caseMentions_bare : ∀ cases : List Case,
    caseMentions (bareCases rename cases) = (caseMentions cases).map (Mention.map rename)
  | [] => rfl
  | .mk pattern guard body :: rest => by
      simp only [bareCases, caseMentions, List.map_append, pattern.mentions_bare,
        optionMentions_bare, stmtMentions_bare body, caseMentions_bare rest]

end

/-- A program mentions, in the same order, what a renaming leads to it from mentions, renamed. -/
theorem Program.RenamedTo.mentions {rename : String → String} {before after : Program}
    (renamed : before.RenamedTo rename after) :
    after.mentions = before.mentions.map (Mention.map rename) := by
  have bareAfter : (after.bare id).mentions = after.mentions := by
    rw [Program.mentions, Program.bare, stmtMentions_bare, Mention.map_id, List.map_id]
    rfl
  rw [← bareAfter, renamed, Program.mentions, Program.bare, stmtMentions_bare]
  rfl

end Refactory.Source
