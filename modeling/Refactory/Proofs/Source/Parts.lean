import Refactory.Proofs.Source.Outline

/-! What stands in a construct stands in every program that holds the construct.

An outline is a tree of labels, so that a label occurs says by itself nothing about what is below it. The
outlines of constructs go on below each label as that construct does.
-/

set_option autoImplicit false

namespace Refactory.Source

def Node.outline : Node → Outline
  | .program found => found.outline
  | .stmt found => found.outline
  | .expr found => found.outline
  | .parameter found => found.outline
  | .keyword found => found.outline
  | .clause found => found.outline
  | .handler found => found.outline
  | .case found => found.outline
  | .withItem found => found.outline
  | .pattern found => found.outline

namespace Outline

/-- Below every label the outline goes on as the construct there does. -/
inductive Faithful : Outline → Prop where
  | node {label : Node} {parts : List Outline} (whole : label.outline = .node label parts)
      (inner : ∀ part ∈ parts, Faithful part) : Faithful (.node label parts)

def AllFaithful (trees : List Outline) : Prop := ∀ tree ∈ trees, tree.Faithful

@[simp] theorem allFaithful_nil : AllFaithful [] := by simp [AllFaithful]

@[simp] theorem allFaithful_cons {tree : Outline} {rest : List Outline} :
    AllFaithful (tree :: rest) ↔ tree.Faithful ∧ AllFaithful rest := by simp [AllFaithful]

@[simp] theorem allFaithful_append {first second : List Outline} :
    AllFaithful (first ++ second) ↔ AllFaithful first ∧ AllFaithful second := by
  simp [AllFaithful, or_imp, forall_and]

theorem Faithful.of_parts {label : Node} {parts : List Outline} (whole : label.outline = .node label parts)
    (inner : AllFaithful parts) : Faithful (.node label parts) := .node whole inner

theorem Occurs.trans {tree : Outline} {node part : Node} (faithful : tree.Faithful)
    (outer : tree.Occurs node) (inner : node.outline.Occurs part) : tree.Occurs part := by
  induction outer with
  | here =>
    cases faithful with
    | node whole _ => rwa [whole] at inner
  | inside within _ ih =>
    cases faithful with
    | node _ below => exact .inside within (ih (below _ within))

end Outline

open Outline

theorem Expr.label_outline (expr : Expr) : expr.outline.label = .expr expr := by
  cases expr <;> rfl

theorem exprOutlines_eq_map (exprs : List Expr) :
    exprOutlines exprs = exprs.map Expr.outline := by
  induction exprs with
  | nil => rfl
  | cons expr rest ih => rw [exprOutlines, ih, List.map_cons]

theorem parameterOutlines_eq_map (parameters : List Parameter) :
    parameterOutlines parameters = parameters.map Parameter.outline := by
  induction parameters with
  | nil => rfl
  | cons parameter rest ih => rw [parameterOutlines, ih, List.map_cons]

theorem keywordOutlines_eq_map (keywords : List Keyword) :
    keywordOutlines keywords = keywords.map Keyword.outline := by
  induction keywords with
  | nil => rfl
  | cons keyword rest ih => rw [keywordOutlines, ih, List.map_cons]

theorem clauseOutlines_eq_map (clauses : List Clause) :
    clauseOutlines clauses = clauses.map Clause.outline := by
  induction clauses with
  | nil => rfl
  | cons clause rest ih => rw [clauseOutlines, ih, List.map_cons]

theorem patternOutlines_eq_map (patterns : List Pattern) :
    patternOutlines patterns = patterns.map Pattern.outline := by
  induction patterns with
  | nil => rfl
  | cons pattern rest ih => rw [patternOutlines, ih, List.map_cons]

theorem stmtOutlines_eq_map (stmts : List Stmt) :
    stmtOutlines stmts = stmts.map Stmt.outline := by
  induction stmts with
  | nil => rfl
  | cons stmt rest ih => rw [stmtOutlines, ih, List.map_cons]

theorem handlerOutlines_eq_map (handlers : List Handler) :
    handlerOutlines handlers = handlers.map Handler.outline := by
  induction handlers with
  | nil => rfl
  | cons handler rest ih => rw [handlerOutlines, ih, List.map_cons]

theorem caseOutlines_eq_map (cases : List Case) :
    caseOutlines cases = cases.map Case.outline := by
  induction cases with
  | nil => rfl
  | cons case rest ih => rw [caseOutlines, ih, List.map_cons]

/-! ## Every construct -/

mutual

theorem Expr.outline_faithful : ∀ expr : Expr, expr.outline.Faithful
  | .constant _ | .name _ _ => .of_parts rfl (by simp)
  | .attribute value _ _ | .starred value _ | .unary _ value | .await value | .yieldFrom value =>
      .of_parts rfl (by simp [value.outline_faithful])
  | .list items _ | .tuple items _ | .boolean _ items | .set items | .formatted items =>
      .of_parts rfl (exprOutlines_faithful items)
  | .subscript first second _ | .binary first _ second | .binding first second =>
      .of_parts rfl (by simp [first.outline_faithful, second.outline_faithful])
  | .slice lower upper step => .of_parts rfl (by
      simp [optionOutline_faithful lower, optionOutline_faithful upper,
        optionOutline_faithful step])
  | .compare left _ others => .of_parts rfl (by
      simp [left.outline_faithful, exprOutlines_faithful others])
  | .conditional test body otherwise => .of_parts rfl (by
      simp [test.outline_faithful, body.outline_faithful, otherwise.outline_faithful])
  | .lambda parameters body => .of_parts rfl (by
      simp [parameterOutlines_faithful parameters, body.outline_faithful])
  | .call function arguments keywords => .of_parts rfl (by
      simp [function.outline_faithful, exprOutlines_faithful arguments,
        keywordOutlines_faithful keywords])
  | .dict items => .of_parts rfl (by
      simp [keyOutlines_faithful items, valueOutlines_faithful items])
  | .listComp element clauses | .setComp element clauses | .generator element clauses =>
      .of_parts rfl (by
        simp [element.outline_faithful, clauseOutlines_faithful clauses])
  | .dictComp key value clauses => .of_parts rfl (by
      simp [key.outline_faithful, value.outline_faithful,
        clauseOutlines_faithful clauses])
  | .yield value => .of_parts rfl (optionOutline_faithful value)
  | .field value _ spec => .of_parts rfl (by
      simp [value.outline_faithful, optionOutline_faithful spec])

theorem exprOutlines_faithful : ∀ exprs : List Expr, AllFaithful (exprOutlines exprs)
  | [] => by simp [exprOutlines]
  | expr :: rest => by
      simp [exprOutlines, expr.outline_faithful, exprOutlines_faithful rest]

theorem optionOutline_faithful : ∀ expr : Option Expr, AllFaithful (optionOutline expr)
  | none => by simp [optionOutline]
  | some expr => by simp [optionOutline, expr.outline_faithful]

theorem parameterOutlines_faithful : ∀ parameters : List Parameter,
    AllFaithful (parameterOutlines parameters)
  | [] => by simp [parameterOutlines]
  | parameter :: rest => by
      simp [parameterOutlines, parameter.outline_faithful, parameterOutlines_faithful rest]

theorem Parameter.outline_faithful : ∀ parameter : Parameter, parameter.outline.Faithful
  | .mk _ _ typeHint value => .of_parts rfl (by
      simp [optionOutline_faithful typeHint, optionOutline_faithful value])

theorem keywordOutlines_faithful : ∀ keywords : List Keyword,
    AllFaithful (keywordOutlines keywords)
  | [] => by simp [keywordOutlines]
  | keyword :: rest => by
      simp [keywordOutlines, keyword.outline_faithful, keywordOutlines_faithful rest]

theorem Keyword.outline_faithful : ∀ keyword : Keyword, keyword.outline.Faithful
  | .mk _ value => .of_parts rfl (by simp [value.outline_faithful])

theorem keyOutlines_faithful : ∀ items : List DictItem, AllFaithful (keyOutlines items)
  | [] => by simp [keyOutlines]
  | .entry key _ :: rest => by
      simp [keyOutlines, key.outline_faithful, keyOutlines_faithful rest]
  | .spread _ :: rest => by
      rw [keyOutlines]
      exact keyOutlines_faithful rest

theorem valueOutlines_faithful : ∀ items : List DictItem,
    AllFaithful (valueOutlines items)
  | [] => by simp [valueOutlines]
  | .entry _ value :: rest | .spread value :: rest => by
      simp [valueOutlines, value.outline_faithful, valueOutlines_faithful rest]

theorem clauseOutlines_faithful : ∀ clauses : List Clause,
    AllFaithful (clauseOutlines clauses)
  | [] => by simp [clauseOutlines]
  | clause :: rest => by
      simp [clauseOutlines, clause.outline_faithful, clauseOutlines_faithful rest]

theorem Clause.outline_faithful : ∀ clause : Clause, clause.outline.Faithful
  | .mk target source conditions _ => .of_parts rfl (by
      simp [target.outline_faithful, source.outline_faithful,
        exprOutlines_faithful conditions])

end

mutual

theorem Pattern.outline_faithful : ∀ pattern : Pattern, pattern.outline.Faithful
  | .value value => .of_parts rfl (by simp [value.outline_faithful])
  | .singleton _ | .star _ => .of_parts rfl (by simp)
  | .sequence patterns | .alternatives patterns => .of_parts rfl (patternOutlines_faithful patterns)
  | .mapping keys patterns _ => .of_parts rfl (by
      simp [exprOutlines_faithful keys, patternOutlines_faithful patterns])
  | .construct callee patterns _ keywordPatterns => .of_parts rfl (by
      simp [callee.outline_faithful, patternOutlines_faithful patterns,
        patternOutlines_faithful keywordPatterns])
  | .capture inner _ => .of_parts rfl (optionPatternOutline_faithful inner)

theorem patternOutlines_faithful : ∀ patterns : List Pattern,
    AllFaithful (patternOutlines patterns)
  | [] => by simp [patternOutlines]
  | pattern :: rest => by
      simp [patternOutlines, pattern.outline_faithful, patternOutlines_faithful rest]

theorem optionPatternOutline_faithful : ∀ pattern : Option Pattern,
    AllFaithful (optionPatternOutline pattern)
  | none => by simp [optionPatternOutline]
  | some pattern => by simp [optionPatternOutline, pattern.outline_faithful]

end

theorem WithItem.outline_faithful (item : WithItem) : item.outline.Faithful :=
  .of_parts rfl (by
    simp [item.manager.outline_faithful, optionOutline_faithful item.target])

theorem withItemOutlines_faithful (items : List WithItem) :
    AllFaithful (items.map WithItem.outline) := by
  intro part member
  obtain ⟨item, _, rfl⟩ := List.mem_map.mp member
  exact item.outline_faithful

mutual

theorem Stmt.outline_faithful : ∀ stmt : Stmt, stmt.outline.Faithful
  | .functionDef _ _ parameters body decorators returns => .of_parts rfl (by
      simp [parameterOutlines_faithful parameters, stmtOutlines_faithful body,
        exprOutlines_faithful decorators, optionOutline_faithful returns])
  | .classDef _ bases keywords body decorators => .of_parts rfl (by
      simp [exprOutlines_faithful bases, keywordOutlines_faithful keywords,
        stmtOutlines_faithful body, exprOutlines_faithful decorators])
  | .ret value => .of_parts rfl (optionOutline_faithful value)
  | .del targets => .of_parts rfl (exprOutlines_faithful targets)
  | .assign targets value => .of_parts rfl (by
      simp [exprOutlines_faithful targets, value.outline_faithful])
  | .augAssign target _ value => .of_parts rfl (by
      simp [target.outline_faithful, value.outline_faithful])
  | .annAssign target typeHint value _ => .of_parts rfl (by
      simp [target.outline_faithful, typeHint.outline_faithful,
        optionOutline_faithful value])
  | .forLoop _ target source body otherwise => .of_parts rfl (by
      simp [target.outline_faithful, source.outline_faithful,
        stmtOutlines_faithful body, stmtOutlines_faithful otherwise])
  | .whileLoop test body otherwise | .ifElse test body otherwise => .of_parts rfl (by
      simp [test.outline_faithful, stmtOutlines_faithful body,
        stmtOutlines_faithful otherwise])
  | .withBlock _ items body => .of_parts rfl (by
      simp [withItemOutlines_faithful items, stmtOutlines_faithful body])
  | .matchOn subject cases => .of_parts rfl (by
      simp [subject.outline_faithful, caseOutlines_faithful cases])
  | .raising error cause => .of_parts rfl (by
      simp [optionOutline_faithful error, optionOutline_faithful cause])
  | .tryBlock _ body handlers otherwise last => .of_parts rfl (by
      simp [stmtOutlines_faithful body, handlerOutlines_faithful handlers,
        stmtOutlines_faithful otherwise, stmtOutlines_faithful last])
  | .assertion test message => .of_parts rfl (by
      simp [test.outline_faithful, optionOutline_faithful message])
  | .expression value => .of_parts rfl (by simp [value.outline_faithful])
  | .importNames _ | .importFrom _ _ _ | .globalNames _ | .nonlocalNames _ | .pass | .breakLoop
  | .continueLoop => .of_parts rfl (by simp)

theorem stmtOutlines_faithful : ∀ stmts : List Stmt, AllFaithful (stmtOutlines stmts)
  | [] => by simp [stmtOutlines]
  | stmt :: rest => by
      simp [stmtOutlines, stmt.outline_faithful, stmtOutlines_faithful rest]

theorem handlerOutlines_faithful : ∀ handlers : List Handler,
    AllFaithful (handlerOutlines handlers)
  | [] => by simp [handlerOutlines]
  | handler :: rest => by
      simp [handlerOutlines, handler.outline_faithful, handlerOutlines_faithful rest]

theorem Handler.outline_faithful : ∀ handler : Handler, handler.outline.Faithful
  | .mk error _ body => .of_parts rfl (by
      simp [optionOutline_faithful error, stmtOutlines_faithful body])

theorem caseOutlines_faithful : ∀ cases : List Case, AllFaithful (caseOutlines cases)
  | [] => by simp [caseOutlines]
  | case :: rest => by
      simp [caseOutlines, case.outline_faithful, caseOutlines_faithful rest]

theorem Case.outline_faithful : ∀ case : Case, case.outline.Faithful
  | .mk pattern guard body => .of_parts rfl (by
      simp [pattern.outline_faithful, optionOutline_faithful guard,
        stmtOutlines_faithful body])

end

theorem Program.outline_faithful (program : Program) : program.outline.Faithful :=
  .of_parts rfl (stmtOutlines_faithful program.body)

theorem Program.Holds.trans {program : Program} {node part : Node} (outer : program.Holds node)
    (inner : node.outline.Occurs part) : program.Holds part :=
  Occurs.trans program.outline_faithful outer inner

end Refactory.Source
