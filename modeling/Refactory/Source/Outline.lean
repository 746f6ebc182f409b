import Refactory.Source.Tree

/-! A program as nodes with parts.

The types of the tree say what each construct holds. Analyses that treat most constructs alike see it
as an `Outline` instead: a node and its parts, in the order in which the construct lists them.
-/

set_option autoImplicit false

namespace Refactory.Source

inductive Node where
  | program (program : Program)
  | stmt (stmt : Stmt)
  | expr (expr : Expr)
  | parameter (parameter : Parameter)
  | keyword (keyword : Keyword)
  | clause (clause : Clause)
  | handler (handler : Handler)
  | case (case : Case)
  | withItem (item : WithItem)
  | pattern (pattern : Pattern)

inductive Outline where
  | node (label : Node) (parts : List Outline)

namespace Outline

def label : Outline → Node
  | .node label _ => label

def parts : Outline → List Outline
  | .node _ parts => parts

mutual

def height : Outline → Nat
  | .node _ parts => heights parts + 1

def heights : List Outline → Nat
  | [] => 0
  | tree :: rest => max tree.height (heights rest)

end

/-- The nodes of some trees level by level, and on each level from left to right. -/
def levels : Nat → List Outline → List Node
  | 0, _ => []
  | depth + 1, trees => trees.map label ++ levels depth (trees.flatMap parts)

def breadthFirst (tree : Outline) : List Node :=
  levels tree.height [tree]

end Outline

mutual

def Expr.outline (expr : Expr) : Outline :=
  match expr with
  | .constant _ => .node (.expr expr) []
  | .name _ _ => .node (.expr expr) []
  | .attribute value _ _ => .node (.expr expr) [value.outline]
  | .subscript value index _ => .node (.expr expr) [value.outline, index.outline]
  | .starred value _ => .node (.expr expr) [value.outline]
  | .list items _ => .node (.expr expr) (exprOutlines items)
  | .tuple items _ => .node (.expr expr) (exprOutlines items)
  | .slice lower upper step =>
      .node (.expr expr) (optionOutline lower ++ optionOutline upper ++ optionOutline step)
  | .boolean _ operands => .node (.expr expr) (exprOutlines operands)
  | .unary _ operand => .node (.expr expr) [operand.outline]
  | .binary left _ right => .node (.expr expr) [left.outline, right.outline]
  | .compare left _ others => .node (.expr expr) (left.outline :: exprOutlines others)
  | .conditional test body otherwise =>
      .node (.expr expr) [test.outline, body.outline, otherwise.outline]
  | .lambda parameters body => .node (.expr expr) (parameterOutlines parameters ++ [body.outline])
  | .call function arguments keywords =>
      .node (.expr expr) (function.outline :: (exprOutlines arguments ++ keywordOutlines keywords))
  | .binding target value => .node (.expr expr) [target.outline, value.outline]
  | .dict items => .node (.expr expr) (keyOutlines items ++ valueOutlines items)
  | .set items => .node (.expr expr) (exprOutlines items)
  | .listComp element clauses => .node (.expr expr) (element.outline :: clauseOutlines clauses)
  | .setComp element clauses => .node (.expr expr) (element.outline :: clauseOutlines clauses)
  | .dictComp key value clauses =>
      .node (.expr expr) (key.outline :: value.outline :: clauseOutlines clauses)
  | .generator element clauses => .node (.expr expr) (element.outline :: clauseOutlines clauses)
  | .await value => .node (.expr expr) [value.outline]
  | .yield value => .node (.expr expr) (optionOutline value)
  | .yieldFrom value => .node (.expr expr) [value.outline]
  | .formatted parts => .node (.expr expr) (exprOutlines parts)
  | .field value _ spec => .node (.expr expr) (value.outline :: optionOutline spec)

def exprOutlines : List Expr → List Outline
  | [] => []
  | expr :: rest => expr.outline :: exprOutlines rest

def optionOutline : Option Expr → List Outline
  | none => []
  | some expr => [expr.outline]

def parameterOutlines : List Parameter → List Outline
  | [] => []
  | parameter :: rest => parameter.outline :: parameterOutlines rest

def Parameter.outline (parameter : Parameter) : Outline :=
  match parameter with
  | .mk _ _ typeHint value =>
      .node (.parameter parameter) (optionOutline typeHint ++ optionOutline value)

def keywordOutlines : List Keyword → List Outline
  | [] => []
  | keyword :: rest => keyword.outline :: keywordOutlines rest

def Keyword.outline (keyword : Keyword) : Outline :=
  match keyword with
  | .mk _ value => .node (.keyword keyword) [value.outline]

def keyOutlines : List DictItem → List Outline
  | [] => []
  | .entry key _ :: rest => key.outline :: keyOutlines rest
  | .spread _ :: rest => keyOutlines rest

def valueOutlines : List DictItem → List Outline
  | [] => []
  | .entry _ value :: rest => value.outline :: valueOutlines rest
  | .spread value :: rest => value.outline :: valueOutlines rest

def clauseOutlines : List Clause → List Outline
  | [] => []
  | clause :: rest => clause.outline :: clauseOutlines rest

def Clause.outline (clause : Clause) : Outline :=
  match clause with
  | .mk target source conditions _ =>
      .node (.clause clause) (target.outline :: source.outline :: exprOutlines conditions)

end

mutual

def Pattern.outline (pattern : Pattern) : Outline :=
  match pattern with
  | .value value => .node (.pattern pattern) [value.outline]
  | .singleton _ => .node (.pattern pattern) []
  | .sequence patterns => .node (.pattern pattern) (patternOutlines patterns)
  | .mapping keys patterns _ =>
      .node (.pattern pattern) (exprOutlines keys ++ patternOutlines patterns)
  | .construct callee patterns _ keywordPatterns => .node (.pattern pattern)
      (callee.outline :: (patternOutlines patterns ++ patternOutlines keywordPatterns))
  | .star _ => .node (.pattern pattern) []
  | .capture inner _ => .node (.pattern pattern) (optionPatternOutline inner)
  | .alternatives patterns => .node (.pattern pattern) (patternOutlines patterns)

def patternOutlines : List Pattern → List Outline
  | [] => []
  | pattern :: rest => pattern.outline :: patternOutlines rest

def optionPatternOutline : Option Pattern → List Outline
  | none => []
  | some pattern => [pattern.outline]

end

def WithItem.outline (item : WithItem) : Outline :=
  .node (.withItem item) (item.manager.outline :: optionOutline item.target)

mutual

def Stmt.outline (stmt : Stmt) : Outline :=
  match stmt with
  | .functionDef _ _ parameters body decorators returns => .node (.stmt stmt)
      (parameterOutlines parameters ++ stmtOutlines body ++ exprOutlines decorators ++
        optionOutline returns)
  | .classDef _ bases keywords body decorators => .node (.stmt stmt)
      (exprOutlines bases ++ keywordOutlines keywords ++ stmtOutlines body ++
        exprOutlines decorators)
  | .ret value => .node (.stmt stmt) (optionOutline value)
  | .del targets => .node (.stmt stmt) (exprOutlines targets)
  | .assign targets value => .node (.stmt stmt) (exprOutlines targets ++ [value.outline])
  | .augAssign target _ value => .node (.stmt stmt) [target.outline, value.outline]
  | .annAssign target typeHint value _ =>
      .node (.stmt stmt) (target.outline :: typeHint.outline :: optionOutline value)
  | .forLoop _ target source body otherwise => .node (.stmt stmt)
      (target.outline :: source.outline :: (stmtOutlines body ++ stmtOutlines otherwise))
  | .whileLoop test body otherwise => .node (.stmt stmt)
      (test.outline :: (stmtOutlines body ++ stmtOutlines otherwise))
  | .ifElse test body otherwise => .node (.stmt stmt)
      (test.outline :: (stmtOutlines body ++ stmtOutlines otherwise))
  | .withBlock _ items body =>
      .node (.stmt stmt) (items.map WithItem.outline ++ stmtOutlines body)
  | .matchOn subject cases => .node (.stmt stmt) (subject.outline :: caseOutlines cases)
  | .raising error cause => .node (.stmt stmt) (optionOutline error ++ optionOutline cause)
  | .tryBlock _ body handlers otherwise last => .node (.stmt stmt)
      (stmtOutlines body ++ handlerOutlines handlers ++ stmtOutlines otherwise ++
        stmtOutlines last)
  | .assertion test message => .node (.stmt stmt) (test.outline :: optionOutline message)
  | .importNames _ => .node (.stmt stmt) []
  | .importFrom _ _ _ => .node (.stmt stmt) []
  | .globalNames _ => .node (.stmt stmt) []
  | .nonlocalNames _ => .node (.stmt stmt) []
  | .expression value => .node (.stmt stmt) [value.outline]
  | .pass => .node (.stmt stmt) []
  | .breakLoop => .node (.stmt stmt) []
  | .continueLoop => .node (.stmt stmt) []

def stmtOutlines : List Stmt → List Outline
  | [] => []
  | stmt :: rest => stmt.outline :: stmtOutlines rest

def handlerOutlines : List Handler → List Outline
  | [] => []
  | handler :: rest => handler.outline :: handlerOutlines rest

def Handler.outline (handler : Handler) : Outline :=
  match handler with
  | .mk error _ body => .node (.handler handler) (optionOutline error ++ stmtOutlines body)

def caseOutlines : List Case → List Outline
  | [] => []
  | case :: rest => case.outline :: caseOutlines rest

def Case.outline (case : Case) : Outline :=
  match case with
  | .mk pattern guard body =>
      .node (.case case) (pattern.outline :: (optionOutline guard ++ stmtOutlines body))

end

def Program.outline (program : Program) : Outline :=
  .node (.program program) (stmtOutlines program.body)

def Program.nodes (program : Program) : List Node :=
  program.outline.breadthFirst

end Refactory.Source
