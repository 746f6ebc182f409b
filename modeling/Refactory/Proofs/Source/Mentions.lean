import Refactory.Proofs.Source.Outline

/-! The names that a program mentions, told construct by construct.

`Program.mentions` goes down the tree as it is built. The constructs that the breadth-first listing
comes upon mention the same names.
-/

set_option autoImplicit false

namespace Refactory.Source

inductive Mention where
  | read (name : String)
  | assigned (name : String)
  | parameter (name : String)
  /-- A plain function or a class gets the name. -/
  | defined (name : String)
  /-- A plain function takes the name by position or by keyword. -/
  | taken (name : String)
  deriving DecidableEq, Repr

def Parameter.taken? : Parameter → Option Mention
  | .mk .positional name _ _ => some (.taken name)
  | _ => none

mutual

def Expr.mentions : Expr → List Mention
  | .constant _ => []
  | .name id .load => [.read id]
  | .name id .store => [.assigned id]
  | .name _ .delete => []
  | .attribute value _ _ => value.mentions
  | .subscript value index _ => value.mentions ++ index.mentions
  | .starred value _ => value.mentions
  | .list items _ => exprMentions items
  | .tuple items _ => exprMentions items
  | .slice lower upper step => optionMentions lower ++ optionMentions upper ++ optionMentions step
  | .boolean _ operands => exprMentions operands
  | .unary _ operand => operand.mentions
  | .binary left _ right => left.mentions ++ right.mentions
  | .compare left _ others => left.mentions ++ exprMentions others
  | .conditional test body otherwise => test.mentions ++ body.mentions ++ otherwise.mentions
  | .lambda parameters body => parameterMentions parameters ++ body.mentions
  | .call function arguments keywords =>
      function.mentions ++ exprMentions arguments ++ keywordMentions keywords
  | .binding target value => target.mentions ++ value.mentions
  | .dict items => dictMentions items
  | .set items => exprMentions items
  | .listComp element clauses => element.mentions ++ clauseMentions clauses
  | .setComp element clauses => element.mentions ++ clauseMentions clauses
  | .dictComp key value clauses => key.mentions ++ value.mentions ++ clauseMentions clauses
  | .generator element clauses => element.mentions ++ clauseMentions clauses
  | .await value => value.mentions
  | .yield value => optionMentions value
  | .yieldFrom value => value.mentions
  | .formatted parts => exprMentions parts
  | .field value _ spec => value.mentions ++ optionMentions spec

def exprMentions : List Expr → List Mention
  | [] => []
  | expr :: rest => expr.mentions ++ exprMentions rest

def optionMentions : Option Expr → List Mention
  | none => []
  | some expr => expr.mentions

def parameterMentions : List Parameter → List Mention
  | [] => []
  | .mk _ name typeHint value :: rest =>
      .parameter name :: (optionMentions typeHint ++ optionMentions value) ++ parameterMentions rest

def keywordMentions : List Keyword → List Mention
  | [] => []
  | .mk _ value :: rest => value.mentions ++ keywordMentions rest

def dictMentions : List DictItem → List Mention
  | [] => []
  | .entry key value :: rest => key.mentions ++ value.mentions ++ dictMentions rest
  | .spread value :: rest => value.mentions ++ dictMentions rest

def clauseMentions : List Clause → List Mention
  | [] => []
  | .mk target source conditions _ :: rest =>
      target.mentions ++ source.mentions ++ exprMentions conditions ++ clauseMentions rest

end

mutual

def Pattern.mentions : Pattern → List Mention
  | .value value => value.mentions
  | .singleton _ => []
  | .sequence patterns => patternMentions patterns
  | .mapping keys patterns _ => exprMentions keys ++ patternMentions patterns
  | .construct callee patterns _ keywordPatterns =>
      callee.mentions ++ patternMentions patterns ++ patternMentions keywordPatterns
  | .star _ => []
  | .capture inner _ => optionPatternMentions inner
  | .alternatives patterns => patternMentions patterns

def patternMentions : List Pattern → List Mention
  | [] => []
  | pattern :: rest => pattern.mentions ++ patternMentions rest

def optionPatternMentions : Option Pattern → List Mention
  | none => []
  | some pattern => pattern.mentions

end

def WithItem.mentions (item : WithItem) : List Mention :=
  item.manager.mentions ++ optionMentions item.target

mutual

def Stmt.mentions : Stmt → List Mention
  | .functionDef isAsync name parameters body decorators returns =>
      (if isAsync then [] else .defined name :: parameters.filterMap Parameter.taken?) ++
        parameterMentions parameters ++ stmtMentions body ++ exprMentions decorators ++
        optionMentions returns
  | .classDef name bases keywords body decorators =>
      .defined name :: (exprMentions bases ++ keywordMentions keywords ++ stmtMentions body ++
        exprMentions decorators)
  | .ret value => optionMentions value
  | .del targets => exprMentions targets
  | .assign targets value => exprMentions targets ++ value.mentions
  | .augAssign target _ value => target.mentions ++ value.mentions
  | .annAssign target typeHint value _ =>
      target.mentions ++ typeHint.mentions ++ optionMentions value
  | .forLoop _ target source body otherwise =>
      target.mentions ++ source.mentions ++ stmtMentions body ++ stmtMentions otherwise
  | .whileLoop test body otherwise => test.mentions ++ stmtMentions body ++ stmtMentions otherwise
  | .ifElse test body otherwise => test.mentions ++ stmtMentions body ++ stmtMentions otherwise
  | .withBlock _ items body => items.flatMap WithItem.mentions ++ stmtMentions body
  | .matchOn subject cases => subject.mentions ++ caseMentions cases
  | .raising error cause => optionMentions error ++ optionMentions cause
  | .tryBlock _ body handlers otherwise last =>
      stmtMentions body ++ handlerMentions handlers ++ stmtMentions otherwise ++ stmtMentions last
  | .assertion test message => test.mentions ++ optionMentions message
  | .importNames _ => []
  | .importFrom _ _ _ => []
  | .globalNames _ => []
  | .nonlocalNames _ => []
  | .expression value => value.mentions
  | .pass => []
  | .breakLoop => []
  | .continueLoop => []

def stmtMentions : List Stmt → List Mention
  | [] => []
  | stmt :: rest => stmt.mentions ++ stmtMentions rest

def handlerMentions : List Handler → List Mention
  | [] => []
  | .mk error _ body :: rest => optionMentions error ++ stmtMentions body ++ handlerMentions rest

def caseMentions : List Case → List Mention
  | [] => []
  | .mk pattern guard body :: rest =>
      pattern.mentions ++ optionMentions guard ++ stmtMentions body ++ caseMentions rest

end

def Program.mentions (program : Program) : List Mention := stmtMentions program.body

/-! ## Mentions by the nodes of an outline -/

def Node.ownMentions : Node → List Mention
  | .expr (.name id .load) => [.read id]
  | .expr (.name id .store) => [.assigned id]
  | .parameter (.mk _ name _ _) => [.parameter name]
  | .stmt (.functionDef false name parameters _ _ _) =>
      .defined name :: parameters.filterMap Parameter.taken?
  | .stmt (.classDef name _ _ _ _) => [.defined name]
  | _ => []

namespace Outline

def Mentions (tree : Outline) (mention : Mention) : Prop :=
  ∃ node, tree.Occurs node ∧ mention ∈ node.ownMentions

def AnyMentions (trees : List Outline) (mention : Mention) : Prop :=
  ∃ tree ∈ trees, tree.Mentions mention

variable {mention : Mention}

@[simp] theorem mentions_node {label : Node} {parts : List Outline} :
    (Outline.node label parts).Mentions mention ↔
      mention ∈ label.ownMentions ∨ AnyMentions parts mention := by
  constructor
  · rintro ⟨node, occurs, made⟩
    cases occurs with
    | here => exact Or.inl made
    | inside within occurs => exact Or.inr ⟨_, within, node, occurs, made⟩
  · rintro (made | ⟨part, within, node, occurs, made⟩)
    · exact ⟨label, .here, made⟩
    · exact ⟨node, .inside within occurs, made⟩

@[simp] theorem anyMentions_nil : ¬ AnyMentions [] mention := by
  simp [AnyMentions]

@[simp] theorem anyMentions_cons {tree : Outline} {rest : List Outline} :
    AnyMentions (tree :: rest) mention ↔ tree.Mentions mention ∨ AnyMentions rest mention := by
  simp [AnyMentions]

@[simp] theorem anyMentions_append {first second : List Outline} :
    AnyMentions (first ++ second) mention ↔ AnyMentions first mention ∨ AnyMentions second mention := by
  simp only [AnyMentions, List.mem_append, or_and_right, exists_or]

end Outline

open Outline

variable (mention : Mention)

mutual

theorem Expr.mentions_outline : ∀ expr : Expr,
    expr.outline.Mentions mention ↔ mention ∈ expr.mentions
  | .constant _ => by simp [Expr.outline, Expr.mentions, Node.ownMentions]
  | .name _ context => by cases context <;> simp [Expr.outline, Expr.mentions, Node.ownMentions]
  | .attribute value _ _ | .starred value _ | .unary _ value | .await value | .yieldFrom value => by
      simp [Expr.outline, Expr.mentions, Node.ownMentions, value.mentions_outline]
  | .list items _ | .tuple items _ | .boolean _ items | .set items | .formatted items => by
      simp [Expr.outline, Expr.mentions, Node.ownMentions, exprMentions_outlines items]
  | .subscript first second _ | .binary first _ second | .binding first second => by
      simp [Expr.outline, Expr.mentions, Node.ownMentions, first.mentions_outline,
        second.mentions_outline]
  | .slice lower upper step => by
      simp [Expr.outline, Expr.mentions, Node.ownMentions, optionMentions_outline lower,
        optionMentions_outline upper, optionMentions_outline step]
  | .compare left _ others => by
      simp [Expr.outline, Expr.mentions, Node.ownMentions, left.mentions_outline,
        exprMentions_outlines others]
  | .conditional test body otherwise => by
      simp [Expr.outline, Expr.mentions, Node.ownMentions, test.mentions_outline,
        body.mentions_outline, otherwise.mentions_outline]
  | .lambda parameters body => by
      simp [Expr.outline, Expr.mentions, Node.ownMentions, parameterMentions_outlines parameters,
        body.mentions_outline]
  | .call function arguments keywords => by
      simp [Expr.outline, Expr.mentions, Node.ownMentions, function.mentions_outline,
        exprMentions_outlines arguments, keywordMentions_outlines keywords]
  | .dict items => by
      simp [Expr.outline, Expr.mentions, Node.ownMentions, dictMentions_outlines items]
  | .listComp element clauses | .setComp element clauses | .generator element clauses => by
      simp [Expr.outline, Expr.mentions, Node.ownMentions, element.mentions_outline,
        clauseMentions_outlines clauses]
  | .dictComp key value clauses => by
      simp [Expr.outline, Expr.mentions, Node.ownMentions, key.mentions_outline,
        value.mentions_outline, clauseMentions_outlines clauses]
  | .yield value => by
      simp [Expr.outline, Expr.mentions, Node.ownMentions, optionMentions_outline value]
  | .field value _ spec => by
      simp [Expr.outline, Expr.mentions, Node.ownMentions, value.mentions_outline,
        optionMentions_outline spec]

theorem exprMentions_outlines : ∀ exprs : List Expr,
    AnyMentions (exprOutlines exprs) mention ↔ mention ∈ exprMentions exprs
  | [] => by simp [exprOutlines, exprMentions]
  | expr :: rest => by
      simp [exprOutlines, exprMentions, expr.mentions_outline, exprMentions_outlines rest]

theorem optionMentions_outline : ∀ expr : Option Expr,
    AnyMentions (optionOutline expr) mention ↔ mention ∈ optionMentions expr
  | none => by simp [optionOutline, optionMentions]
  | some expr => by simp [optionOutline, optionMentions, expr.mentions_outline]

theorem parameterMentions_outlines : ∀ parameters : List Parameter,
    AnyMentions (parameterOutlines parameters) mention ↔ mention ∈ parameterMentions parameters
  | [] => by simp [parameterOutlines, parameterMentions]
  | .mk _ _ typeHint value :: rest => by
      simp [parameterOutlines, parameterMentions, Parameter.outline, Node.ownMentions,
        optionMentions_outline typeHint, optionMentions_outline value,
        parameterMentions_outlines rest, or_assoc]

theorem keywordMentions_outlines : ∀ keywords : List Keyword,
    AnyMentions (keywordOutlines keywords) mention ↔ mention ∈ keywordMentions keywords
  | [] => by simp [keywordOutlines, keywordMentions]
  | .mk _ value :: rest => by
      simp [keywordOutlines, keywordMentions, Keyword.outline, Node.ownMentions,
        value.mentions_outline, keywordMentions_outlines rest]

/-- The outline lists all keys of a display before its values. -/
theorem dictMentions_outlines : ∀ items : List DictItem,
    AnyMentions (keyOutlines items) mention ∨ AnyMentions (valueOutlines items) mention ↔
      mention ∈ dictMentions items
  | [] => by simp [keyOutlines, valueOutlines, dictMentions]
  | .entry key value :: rest => by
      simp only [keyOutlines, valueOutlines, dictMentions, anyMentions_cons, List.mem_append,
        key.mentions_outline, value.mentions_outline, ← dictMentions_outlines rest]
      grind
  | .spread value :: rest => by
      simp only [keyOutlines, valueOutlines, dictMentions, anyMentions_cons, List.mem_append,
        value.mentions_outline, ← dictMentions_outlines rest]
      grind

theorem clauseMentions_outlines : ∀ clauses : List Clause,
    AnyMentions (clauseOutlines clauses) mention ↔ mention ∈ clauseMentions clauses
  | [] => by simp [clauseOutlines, clauseMentions]
  | .mk target source conditions _ :: rest => by
      simp [clauseOutlines, clauseMentions, Clause.outline, Node.ownMentions, target.mentions_outline,
        source.mentions_outline, exprMentions_outlines conditions, clauseMentions_outlines rest,
        or_assoc]

end

mutual

theorem Pattern.mentions_outline : ∀ pattern : Pattern,
    pattern.outline.Mentions mention ↔ mention ∈ pattern.mentions
  | .value value => by
      simp [Pattern.outline, Pattern.mentions, Node.ownMentions, value.mentions_outline]
  | .singleton _ | .star _ => by simp [Pattern.outline, Pattern.mentions, Node.ownMentions]
  | .sequence patterns | .alternatives patterns => by
      simp [Pattern.outline, Pattern.mentions, Node.ownMentions, patternMentions_outlines patterns]
  | .mapping keys patterns _ => by
      simp [Pattern.outline, Pattern.mentions, Node.ownMentions, exprMentions_outlines,
        patternMentions_outlines patterns]
  | .construct callee patterns _ keywordPatterns => by
      simp [Pattern.outline, Pattern.mentions, Node.ownMentions, callee.mentions_outline,
        patternMentions_outlines patterns, patternMentions_outlines keywordPatterns]
  | .capture inner _ => by
      simp [Pattern.outline, Pattern.mentions, Node.ownMentions, optionPatternMentions_outline inner]

theorem patternMentions_outlines : ∀ patterns : List Pattern,
    AnyMentions (patternOutlines patterns) mention ↔ mention ∈ patternMentions patterns
  | [] => by simp [patternOutlines, patternMentions]
  | pattern :: rest => by
      simp [patternOutlines, patternMentions, pattern.mentions_outline, patternMentions_outlines rest]

theorem optionPatternMentions_outline : ∀ pattern : Option Pattern,
    AnyMentions (optionPatternOutline pattern) mention ↔ mention ∈ optionPatternMentions pattern
  | none => by simp [optionPatternOutline, optionPatternMentions]
  | some pattern => by simp [optionPatternOutline, optionPatternMentions, pattern.mentions_outline]

end

theorem withItemMentions_outlines (items : List WithItem) :
    AnyMentions (items.map WithItem.outline) mention ↔ mention ∈ items.flatMap WithItem.mentions := by
  induction items with
  | nil => simp
  | cons item rest ih =>
    simp [WithItem.outline, WithItem.mentions, Node.ownMentions, item.manager.mentions_outline,
      optionMentions_outline, ih, or_assoc]

mutual

theorem Stmt.mentions_outline : ∀ stmt : Stmt,
    stmt.outline.Mentions mention ↔ mention ∈ stmt.mentions
  | .functionDef isAsync _ parameters body decorators returns => by
      cases isAsync <;>
      simp [Stmt.outline, Stmt.mentions, Node.ownMentions, parameterMentions_outlines,
        stmtMentions_outlines body, exprMentions_outlines, optionMentions_outline, or_assoc]
  | .classDef _ bases keywords body decorators => by
      simp [Stmt.outline, Stmt.mentions, Node.ownMentions, exprMentions_outlines,
        keywordMentions_outlines, stmtMentions_outlines body]
  | .ret value => by
      simp [Stmt.outline, Stmt.mentions, Node.ownMentions, optionMentions_outline]
  | .del targets => by
      simp [Stmt.outline, Stmt.mentions, Node.ownMentions, exprMentions_outlines]
  | .assign targets value => by
      simp [Stmt.outline, Stmt.mentions, Node.ownMentions, exprMentions_outlines,
        value.mentions_outline]
  | .augAssign target _ value => by
      simp [Stmt.outline, Stmt.mentions, Node.ownMentions, target.mentions_outline,
        value.mentions_outline]
  | .annAssign target typeHint value _ => by
      simp [Stmt.outline, Stmt.mentions, Node.ownMentions, target.mentions_outline,
        typeHint.mentions_outline, optionMentions_outline]
  | .forLoop _ target source body otherwise => by
      simp [Stmt.outline, Stmt.mentions, Node.ownMentions, target.mentions_outline,
        source.mentions_outline, stmtMentions_outlines body, stmtMentions_outlines otherwise]
  | .whileLoop test body otherwise | .ifElse test body otherwise => by
      simp [Stmt.outline, Stmt.mentions, Node.ownMentions, test.mentions_outline,
        stmtMentions_outlines body, stmtMentions_outlines otherwise]
  | .withBlock _ items body => by
      simp only [Stmt.outline, Stmt.mentions, mentions_node, Node.ownMentions, anyMentions_append,
        withItemMentions_outlines, stmtMentions_outlines body, List.mem_append, List.not_mem_nil,
        false_or]
  | .matchOn subject cases => by
      simp [Stmt.outline, Stmt.mentions, Node.ownMentions, subject.mentions_outline,
        caseMentions_outlines cases]
  | .raising error cause => by
      simp [Stmt.outline, Stmt.mentions, Node.ownMentions, optionMentions_outline]
  | .tryBlock _ body handlers otherwise last => by
      simp [Stmt.outline, Stmt.mentions, Node.ownMentions, stmtMentions_outlines body,
        handlerMentions_outlines handlers, stmtMentions_outlines otherwise, stmtMentions_outlines last]
  | .assertion test message => by
      simp [Stmt.outline, Stmt.mentions, Node.ownMentions, test.mentions_outline,
        optionMentions_outline]
  | .expression value => by
      simp [Stmt.outline, Stmt.mentions, Node.ownMentions, value.mentions_outline]
  | .importNames _ | .importFrom _ _ _ | .globalNames _ | .nonlocalNames _ | .pass | .breakLoop
  | .continueLoop => by simp [Stmt.outline, Stmt.mentions, Node.ownMentions]

theorem stmtMentions_outlines : ∀ stmts : List Stmt,
    AnyMentions (stmtOutlines stmts) mention ↔ mention ∈ stmtMentions stmts
  | [] => by simp [stmtOutlines, stmtMentions]
  | stmt :: rest => by
      simp [stmtOutlines, stmtMentions, stmt.mentions_outline, stmtMentions_outlines rest]

theorem handlerMentions_outlines : ∀ handlers : List Handler,
    AnyMentions (handlerOutlines handlers) mention ↔ mention ∈ handlerMentions handlers
  | [] => by simp [handlerOutlines, handlerMentions]
  | .mk error _ body :: rest => by
      simp [handlerOutlines, handlerMentions, Handler.outline, Node.ownMentions,
        optionMentions_outline, stmtMentions_outlines body, handlerMentions_outlines rest, or_assoc]

theorem caseMentions_outlines : ∀ cases : List Case,
    AnyMentions (caseOutlines cases) mention ↔ mention ∈ caseMentions cases
  | [] => by simp [caseOutlines, caseMentions]
  | .mk pattern guard body :: rest => by
      simp [caseOutlines, caseMentions, Case.outline, Node.ownMentions, pattern.mentions_outline,
        optionMentions_outline, stmtMentions_outlines body, caseMentions_outlines rest, or_assoc]

end

theorem Program.mem_mentions {program : Program} {mention : Mention} :
    mention ∈ program.mentions ↔ ∃ node, program.Holds node ∧ mention ∈ node.ownMentions := by
  rw [Program.mentions, ← stmtMentions_outlines]
  change _ ↔ program.outline.Mentions mention
  simp [Program.outline, Node.ownMentions]

end Refactory.Source
