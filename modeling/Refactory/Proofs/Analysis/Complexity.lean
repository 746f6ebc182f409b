import Refactory.Analysis.ComplexityReport
import Refactory.Proofs.Json.RoundTrip
import Refactory.Proofs.Workspace.Writing

/-! The report on a program lists its functions with the decision points of their bodies.

The analysis walks over nodes and parts. Here the functions and the decision points are given by the
constructs of the tree itself, one rule for each, and the analysis is shown to find the same.
-/

set_option autoImplicit false

namespace Refactory.Source

/-! ## Decision points -/

mutual

/-- The decision points in an expression: a conditional is one, a chain of operands one less than it
has operands, and a clause of a comprehension one and one for each of its conditions. -/
def Expr.decisions : Expr → Nat
  | .constant _ => 0
  | .name _ _ => 0
  | .attribute value _ _ => value.decisions
  | .subscript value index _ => value.decisions + index.decisions
  | .starred value _ => value.decisions
  | .list items _ => exprDecisions items
  | .tuple items _ => exprDecisions items
  | .slice lower upper step => optionDecisions lower + optionDecisions upper + optionDecisions step
  | .boolean _ operands => operands.length - 1 + exprDecisions operands
  | .unary _ operand => operand.decisions
  | .binary left _ right => left.decisions + right.decisions
  | .compare left _ others => left.decisions + exprDecisions others
  | .conditional test body otherwise => 1 + (test.decisions + body.decisions + otherwise.decisions)
  | .lambda parameters body => parameterDecisions parameters + body.decisions
  | .call function arguments keywords =>
      function.decisions + (exprDecisions arguments + keywordDecisions keywords)
  | .binding target value => target.decisions + value.decisions
  | .dict items => keyDecisions items + valueDecisions items
  | .set items => exprDecisions items
  | .listComp element clauses => element.decisions + clauseDecisions clauses
  | .setComp element clauses => element.decisions + clauseDecisions clauses
  | .dictComp key value clauses => key.decisions + (value.decisions + clauseDecisions clauses)
  | .generator element clauses => element.decisions + clauseDecisions clauses
  | .await value => value.decisions
  | .yield value => optionDecisions value
  | .yieldFrom value => value.decisions
  | .formatted parts => exprDecisions parts
  | .field value _ spec => value.decisions + optionDecisions spec

def exprDecisions : List Expr → Nat
  | [] => 0
  | expr :: rest => expr.decisions + exprDecisions rest

def optionDecisions : Option Expr → Nat
  | none => 0
  | some expr => expr.decisions

def parameterDecisions : List Parameter → Nat
  | [] => 0
  | .mk _ _ typeHint value :: rest =>
      optionDecisions typeHint + optionDecisions value + parameterDecisions rest

def keywordDecisions : List Keyword → Nat
  | [] => 0
  | .mk _ value :: rest => value.decisions + keywordDecisions rest

def keyDecisions : List DictItem → Nat
  | [] => 0
  | .entry key _ :: rest => key.decisions + keyDecisions rest
  | .spread _ :: rest => keyDecisions rest

def valueDecisions : List DictItem → Nat
  | [] => 0
  | .entry _ value :: rest => value.decisions + valueDecisions rest
  | .spread value :: rest => value.decisions + valueDecisions rest

def clauseDecisions : List Clause → Nat
  | [] => 0
  | .mk target source conditions _ :: rest =>
      1 + conditions.length + (target.decisions + (source.decisions + exprDecisions conditions)) +
        clauseDecisions rest

end

mutual

def Pattern.decisions : Pattern → Nat
  | .value value => value.decisions
  | .singleton _ => 0
  | .sequence patterns => patternDecisions patterns
  | .mapping keys patterns _ => exprDecisions keys + patternDecisions patterns
  | .construct callee patterns _ keywordPatterns =>
      callee.decisions + (patternDecisions patterns + patternDecisions keywordPatterns)
  | .star _ => 0
  | .capture inner _ => optionPatternDecisions inner
  | .alternatives patterns => patternDecisions patterns

def patternDecisions : List Pattern → Nat
  | [] => 0
  | pattern :: rest => pattern.decisions + patternDecisions rest

def optionPatternDecisions : Option Pattern → Nat
  | none => 0
  | some pattern => pattern.decisions

end

def withItemDecisions : List WithItem → Nat
  | [] => 0
  | item :: rest => item.manager.decisions + optionDecisions item.target + withItemDecisions rest

def elseDecision (otherwise : List Stmt) : Nat :=
  if otherwise.isEmpty then 0 else 1

mutual

/-- The decision points in a statement. Definitions have none, whatever is in them, and an assertion
is one, whatever it asserts. -/
def Stmt.decisions : Stmt → Nat
  | .functionDef _ _ _ _ _ _ => 0
  | .classDef _ _ _ _ _ => 0
  | .assertion _ _ => 1
  | .ifElse test body otherwise => 1 + (test.decisions + (stmtDecisions body + stmtDecisions otherwise))
  | .forLoop _ target source body otherwise =>
      1 + elseDecision otherwise +
        (target.decisions + (source.decisions + (stmtDecisions body + stmtDecisions otherwise)))
  | .whileLoop test body otherwise =>
      1 + elseDecision otherwise + (test.decisions + (stmtDecisions body + stmtDecisions otherwise))
  | .tryBlock groups body handlers otherwise last =>
      (if groups then 0 else handlers.length + elseDecision otherwise) +
        (stmtDecisions body + handlerDecisions handlers + stmtDecisions otherwise + stmtDecisions last)
  | .withBlock _ items body => withItemDecisions items + stmtDecisions body
  | .matchOn subject cases => subject.decisions + caseDecisions cases
  | .ret value => optionDecisions value
  | .del targets => exprDecisions targets
  | .assign targets value => exprDecisions targets + value.decisions
  | .augAssign target _ value => target.decisions + value.decisions
  | .annAssign target typeHint value _ => target.decisions + (typeHint.decisions + optionDecisions value)
  | .raising error cause => optionDecisions error + optionDecisions cause
  | .expression value => value.decisions
  | .importNames _ => 0
  | .importFrom _ _ _ => 0
  | .globalNames _ => 0
  | .nonlocalNames _ => 0
  | .pass => 0
  | .breakLoop => 0
  | .continueLoop => 0

def stmtDecisions : List Stmt → Nat
  | [] => 0
  | stmt :: rest => stmt.decisions + stmtDecisions rest

def handlerDecisions : List Handler → Nat
  | [] => 0
  | .mk error _ body :: rest => optionDecisions error + stmtDecisions body + handlerDecisions rest

def caseDecisions : List Case → Nat
  | [] => 0
  | .mk pattern guard body :: rest =>
      pattern.decisions + (optionDecisions guard + stmtDecisions body) + caseDecisions rest

end

/-! ## Functions -/

mutual

/-- The functions of a statement that are in no other function and in no class, with their bodies. -/
def Stmt.functions : Stmt → List (String × List Stmt)
  | .functionDef _ name _ body _ _ => [(name, body)]
  | .ifElse _ body otherwise => stmtFunctions body ++ stmtFunctions otherwise
  | .forLoop _ _ _ body otherwise => stmtFunctions body ++ stmtFunctions otherwise
  | .whileLoop _ body otherwise => stmtFunctions body ++ stmtFunctions otherwise
  | .tryBlock _ body handlers otherwise last =>
      stmtFunctions body ++ handlerFunctions handlers ++ stmtFunctions otherwise ++ stmtFunctions last
  | .withBlock _ _ body => stmtFunctions body
  | .matchOn _ cases => caseFunctions cases
  | _ => []

def stmtFunctions : List Stmt → List (String × List Stmt)
  | [] => []
  | stmt :: rest => stmt.functions ++ stmtFunctions rest

def handlerFunctions : List Handler → List (String × List Stmt)
  | [] => []
  | .mk _ _ body :: rest => stmtFunctions body ++ handlerFunctions rest

def caseFunctions : List Case → List (String × List Stmt)
  | [] => []
  | .mk _ _ body :: rest => stmtFunctions body ++ caseFunctions rest

end

end Refactory.Source

namespace Refactory.Analysis

open Source

/-! ## What the analysis finds -/

theorem decisionPointsAll_append (first second : List Outline) :
    decisionPointsAll (first ++ second) = decisionPointsAll first + decisionPointsAll second := by
  induction first with
  | nil => simp [decisionPointsAll]
  | cons tree rest ih => rw [List.cons_append, decisionPointsAll, decisionPointsAll, ih, Nat.add_assoc]

theorem measuredFunctionsAll_append (first second : List Outline) :
    measuredFunctionsAll (first ++ second) = measuredFunctionsAll first ++ measuredFunctionsAll second := by
  induction first with
  | nil => rfl
  | cons tree rest ih => rw [List.cons_append, measuredFunctionsAll, measuredFunctionsAll, ih, List.append_assoc]

def measure (function : String × List Stmt) : Measured :=
  ⟨function.1, 1 + stmtDecisions function.2⟩

/-- The analysis finds so many decision points in some trees, and these functions. -/
structure Finds (trees : List Outline) (points : Nat) (functions : List (String × List Stmt)) : Prop where
  points_eq : decisionPointsAll trees = points
  functions_eq : measuredFunctionsAll trees = functions.map measure

namespace Finds

variable {trees others : List Outline} {points more : Nat} {functions later : List (String × List Stmt)}
  {label : Node}

theorem nil : Finds [] 0 [] := ⟨rfl, rfl⟩

theorem append (first : Finds trees points functions) (second : Finds others more later) :
    Finds (trees ++ others) (points + more) (functions ++ later) := by
  constructor
  · rw [decisionPointsAll_append, first.points_eq, second.points_eq]
  · rw [measuredFunctionsAll_append, first.functions_eq, second.functions_eq, List.map_append]

/-- A node that is not sealed adds its own points to those of its parts, and has their functions. -/
theorem node (opened : isSealed label = false) (parts : Finds trees points functions) :
    Finds [.node label trees] (ownPoints label + points) functions := by
  -- functions are sealed, so the node is none
  have noFunction (isAsync : Bool) (name : String) (parameters : List Parameter) (body : List Stmt)
      (decorators : List Expr) (returns : Option Expr) :
      label ≠ .stmt (.functionDef isAsync name parameters body decorators returns) := by
    rintro rfl
    cases opened
  constructor
  · rw [decisionPointsAll, decisionPoints, opened, parts.points_eq]
    rfl
  · rw [measuredFunctionsAll, measuredFunctions, opened]
    · exact (List.append_nil _).trans parts.functions_eq
    · exact noFunction

theorem plain (opened : isSealed label = false) (own : ownPoints label = 0) (parts : Finds trees points functions) :
    Finds [.node label trees] points functions := by
  have whole := parts.node opened
  rwa [own, Nat.zero_add] at whole

end Finds

mutual

theorem finds_expr : ∀ expr : Expr, Finds [expr.outline] expr.decisions []
  | .constant _ | .name _ _ => Finds.nil.plain rfl rfl
  | .attribute value _ _ | .starred value _ | .unary _ value | .await value | .yieldFrom value =>
      (finds_expr value).plain rfl rfl
  | .list items _ | .tuple items _ | .set items | .formatted items => (finds_exprs items).plain rfl rfl
  | .boolean _ operands => (finds_exprs operands).node rfl
  | .subscript first second _ | .binary first _ second | .binding first second =>
      ((finds_expr first).append (finds_expr second)).plain rfl rfl
  | .slice lower upper step =>
      (((finds_option lower).append (finds_option upper)).append (finds_option step)).plain rfl rfl
  | .compare left _ others => ((finds_expr left).append (finds_exprs others)).plain rfl rfl
  | .conditional test body otherwise =>
      (((finds_expr test).append (finds_expr body)).append (finds_expr otherwise)).node rfl
  | .lambda parameters body => ((finds_parameters parameters).append (finds_expr body)).plain rfl rfl
  | .call function arguments keywords =>
      ((finds_expr function).append ((finds_exprs arguments).append (finds_keywords keywords))).plain rfl rfl
  | .dict items => ((finds_keys items).append (finds_values items)).plain rfl rfl
  | .listComp element clauses | .setComp element clauses | .generator element clauses =>
      ((finds_expr element).append (finds_clauses clauses)).plain rfl rfl
  | .dictComp key value clauses =>
      ((finds_expr key).append ((finds_expr value).append (finds_clauses clauses))).plain rfl rfl
  | .yield value => (finds_option value).plain rfl rfl
  | .field value _ spec => ((finds_expr value).append (finds_option spec)).plain rfl rfl

theorem finds_exprs : ∀ exprs : List Expr, Finds (exprOutlines exprs) (exprDecisions exprs) []
  | [] => .nil
  | expr :: rest => (finds_expr expr).append (finds_exprs rest)

theorem finds_option : ∀ expr : Option Expr, Finds (optionOutline expr) (optionDecisions expr) []
  | none => .nil
  | some expr => finds_expr expr

theorem finds_parameters : ∀ parameters : List Parameter,
    Finds (parameterOutlines parameters) (parameterDecisions parameters) []
  | [] => .nil
  | .mk _ _ typeHint value :: rest =>
      (((finds_option typeHint).append (finds_option value)).plain rfl rfl).append (finds_parameters rest)

theorem finds_keywords : ∀ keywords : List Keyword, Finds (keywordOutlines keywords) (keywordDecisions keywords) []
  | [] => .nil
  | .mk _ value :: rest => ((finds_expr value).plain rfl rfl).append (finds_keywords rest)

theorem finds_keys : ∀ items : List DictItem, Finds (keyOutlines items) (keyDecisions items) []
  | [] => .nil
  | .entry key _ :: rest => (finds_expr key).append (finds_keys rest)
  | .spread _ :: rest => finds_keys rest

theorem finds_values : ∀ items : List DictItem, Finds (valueOutlines items) (valueDecisions items) []
  | [] => .nil
  | .entry _ value :: rest | .spread value :: rest => (finds_expr value).append (finds_values rest)

theorem finds_clauses : ∀ clauses : List Clause, Finds (clauseOutlines clauses) (clauseDecisions clauses) []
  | [] => .nil
  | .mk target source conditions _ :: rest =>
      (((finds_expr target).append ((finds_expr source).append (finds_exprs conditions))).node rfl).append
        (finds_clauses rest)

end

mutual

theorem finds_pattern : ∀ pattern : Pattern, Finds [pattern.outline] pattern.decisions []
  | .value value => (finds_expr value).plain rfl rfl
  | .singleton _ | .star _ => Finds.nil.plain rfl rfl
  | .sequence patterns | .alternatives patterns => (finds_patterns patterns).plain rfl rfl
  | .mapping keys patterns _ => ((finds_exprs keys).append (finds_patterns patterns)).plain rfl rfl
  | .construct callee patterns _ keywordPatterns =>
      ((finds_expr callee).append ((finds_patterns patterns).append (finds_patterns keywordPatterns))).plain rfl rfl
  | .capture inner _ => (finds_optionPattern inner).plain rfl rfl

theorem finds_patterns : ∀ patterns : List Pattern, Finds (patternOutlines patterns) (patternDecisions patterns) []
  | [] => .nil
  | pattern :: rest => (finds_pattern pattern).append (finds_patterns rest)

theorem finds_optionPattern : ∀ pattern : Option Pattern,
    Finds (optionPatternOutline pattern) (optionPatternDecisions pattern) []
  | none => .nil
  | some pattern => finds_pattern pattern

end

theorem finds_withItems (items : List WithItem) :
    Finds (items.map WithItem.outline) (withItemDecisions items) [] := by
  induction items with
  | nil => exact .nil
  | cons item rest ih =>
    exact (((finds_expr item.manager).append (finds_option item.target)).plain rfl rfl).append ih

/-! ## Bodies of functions -/

theorem filter_exprs (exprs : List Expr) : (exprOutlines exprs).filter isStatement = [] := by
  induction exprs with
  | nil => rfl
  | cons expr rest ih =>
    have other : isStatement expr.outline = false := by cases expr <;> rfl
    rw [exprOutlines, List.filter_cons_of_neg (by simp [other]), ih]

theorem filter_parameters (parameters : List Parameter) : (parameterOutlines parameters).filter isStatement = [] := by
  induction parameters with
  | nil => rfl
  | cons parameter rest ih =>
    have other : isStatement parameter.outline = false := by cases parameter; rfl
    rw [parameterOutlines, List.filter_cons_of_neg (by simp [other]), ih]

theorem filter_stmts (body : List Stmt) : (stmtOutlines body).filter isStatement = stmtOutlines body := by
  induction body with
  | nil => rfl
  | cons stmt rest ih =>
    have statement : isStatement stmt.outline = true := by cases stmt <;> rfl
    rw [stmtOutlines, List.filter_cons_of_pos statement, ih]

theorem filter_function (parameters : List Parameter) (body : List Stmt) (decorators : List Expr)
    (returns : Option Expr) :
    (parameterOutlines parameters ++ stmtOutlines body ++ exprOutlines decorators ++
      optionOutline returns).filter isStatement = stmtOutlines body := by
  have option : optionOutline returns = exprOutlines returns.toList := by cases returns <;> rfl
  rw [option, List.filter_append, List.filter_append, List.filter_append, filter_parameters, filter_stmts,
    filter_exprs, filter_exprs, List.append_nil, List.append_nil, List.nil_append]

mutual

theorem finds_stmt : ∀ stmt : Stmt, Finds [stmt.outline] stmt.decisions stmt.functions
  | .functionDef isAsync name parameters body decorators returns => by
      -- a function adds no points to what it is in; those of its body are its own
      refine ⟨rfl, ?_⟩
      rw [Stmt.outline, measuredFunctionsAll, measuredFunctions, filter_function, (finds_stmts body).points_eq]
      rfl
  | .classDef _ _ _ _ _ | .assertion _ _ => ⟨rfl, rfl⟩
  | .ifElse test body otherwise =>
      ((finds_expr test).append ((finds_stmts body).append (finds_stmts otherwise))).node rfl
  | .forLoop _ target source body otherwise =>
      ((finds_expr target).append ((finds_expr source).append
        ((finds_stmts body).append (finds_stmts otherwise)))).node rfl
  | .whileLoop test body otherwise =>
      ((finds_expr test).append ((finds_stmts body).append (finds_stmts otherwise))).node rfl
  | .tryBlock groups body handlers otherwise last => by
      have parts := (((finds_stmts body).append (finds_handlers handlers)).append (finds_stmts otherwise)).append
        (finds_stmts last)
      cases groups <;> exact parts.node rfl
  | .withBlock _ items body => ((finds_withItems items).append (finds_stmts body)).plain rfl rfl
  | .matchOn subject cases => ((finds_expr subject).append (finds_cases cases)).plain rfl rfl
  | .ret value => (finds_option value).plain rfl rfl
  | .del targets => (finds_exprs targets).plain rfl rfl
  | .assign targets value => ((finds_exprs targets).append (finds_expr value)).plain rfl rfl
  | .augAssign target _ value => ((finds_expr target).append (finds_expr value)).plain rfl rfl
  | .annAssign target typeHint value _ =>
      ((finds_expr target).append ((finds_expr typeHint).append (finds_option value))).plain rfl rfl
  | .raising error cause => ((finds_option error).append (finds_option cause)).plain rfl rfl
  | .expression value => (finds_expr value).plain rfl rfl
  | .importNames _ | .importFrom _ _ _ | .globalNames _ | .nonlocalNames _ | .pass | .breakLoop | .continueLoop =>
      Finds.nil.plain rfl rfl

theorem finds_stmts : ∀ stmts : List Stmt, Finds (stmtOutlines stmts) (stmtDecisions stmts) (stmtFunctions stmts)
  | [] => .nil
  | stmt :: rest => (finds_stmt stmt).append (finds_stmts rest)

theorem finds_handlers : ∀ handlers : List Handler,
    Finds (handlerOutlines handlers) (handlerDecisions handlers) (handlerFunctions handlers)
  | [] => .nil
  | .mk error _ body :: rest =>
      (((finds_option error).append (finds_stmts body)).plain rfl rfl).append (finds_handlers rest)

theorem finds_cases : ∀ cases : List Case, Finds (caseOutlines cases) (caseDecisions cases) (caseFunctions cases)
  | [] => .nil
  | .mk pattern guard body :: rest =>
      (((finds_pattern pattern).append ((finds_option guard).append (finds_stmts body))).plain rfl rfl).append
        (finds_cases rest)

end

theorem ofProgram_eq (program : Program) :
    Measured.ofProgram program = (stmtFunctions program.body).map measure := by
  have whole : Finds [program.outline] (stmtDecisions program.body) (stmtFunctions program.body) :=
    (finds_stmts program.body).plain rfl rfl
  have found := whole.functions_eq
  rwa [measuredFunctionsAll, measuredFunctionsAll, List.append_nil] at found

/-! ## The report -/

open Json Workspace

def listing (name : String) (complexity : Nat) : Value :=
  .dict [(.text "name", .text name), (.text "complexity", .int complexity),
    (.text "grade", .text (if 10 < complexity then "CRITICAL" else "ACCEPTABLE"))]

def reported (function : String × List Stmt) : Value :=
  listing function.1 (1 + stmtDecisions function.2)

theorem complexityReport_eq (program : Program) :
    complexityReport program = render (.lines 2) (.list ((stmtFunctions program.body).map reported)) := by
  rw [complexityReport, ofProgram_eq, List.map_map]
  rfl

theorem textKeyed_listing (name : String) (complexity : Nat) : TextKeyed (listing name complexity) := by
  have keyed : TextKeyed (.dict (named [("name", .text name), ("complexity", .int complexity),
      ("grade", .text (if 10 < complexity then "CRITICAL" else "ACCEPTABLE"))])) := by
    refine .dict (by simp) fun entry member => ?_
    simp only [List.mem_cons, List.not_mem_nil, or_false] at member
    rcases member with rfl | rfl | rfl
    · exact .text _
    · exact .int _
    · exact .text _
  exact keyed

theorem storable_listing (name : String) {complexity : Nat} (short : IsShort complexity) :
    Storable (listing name complexity) := by
  refine .dict (fun entry member => ?_) fun entry member => ?_ <;>
    simp only [List.mem_cons, List.not_mem_nil, or_false] at member
  · rcases member with rfl | rfl | rfl <;> trivial
  · rcases member with rfl | rfl | rfl
    · exact .text _
    · exact .int short
    · exact .text _

/-- The report on the functions of a program can be read exactly if no complexity is too long to be
read, and is then the list of what it says of each function. -/
theorem parse_report_iff (functions : List (String × List Stmt)) :
    parse (render (.lines 2) (.list (functions.map reported))) = .ok (.list (functions.map reported)) ↔
      ∀ function ∈ functions, IsShort (1 + stmtDecisions function.2 : Nat) := by
  constructor
  · intro parsed function listed
    -- the complexity is one of the integers that have been read
    cases parse_short parsed with
    | list each =>
      cases each (reported function) (List.mem_map_of_mem listed) with
      | dict entries =>
        cases entries (.text "complexity", .int (1 + stmtDecisions function.2 : Nat)) (by simp) with
        | int short => exact short
  · intro short
    have each {item : Value} (member : item ∈ functions.map reported) : Storable item ∧ TextKeyed item := by
      obtain ⟨function, listed, rfl⟩ := List.mem_map.mp member
      exact ⟨storable_listing _ (short function listed), textKeyed_listing _ _⟩
    have same : normal (.list (functions.map reported)) = .list (functions.map reported) :=
      (TextKeyed.list fun _ member => (each member).2).normal_eq
    have stored : Storable (.list (functions.map reported)) := .list fun _ member => (each member).1
    have read := parse_render stored.readsAs (.lines 2)
    rwa [same] at read

/-- The report on a file that holds a program lists the functions outside of functions and classes, in
their order, with the decision points of their bodies. -/
theorem report_lists_functions {tree : Tree} {path text : String} {program : Program}
    (read : tree.readText path = .ok text) (parsed : Program.parse text = .ok program) :
    describeComplexity tree path = render (.lines 2) (.list ((stmtFunctions program.body).map reported)) ∧
      (parse (describeComplexity tree path) = .ok (.list ((stmtFunctions program.body).map reported)) ↔
        ∀ function ∈ stmtFunctions program.body, IsShort (1 + stmtDecisions function.2 : Nat)) := by
  have written : describeComplexity tree path =
      render (.lines 2) (.list ((stmtFunctions program.body).map reported)) := by
    have measured : measureFile tree path = .ok (complexityReport program) := by
      unfold measureFile
      rw [read]
      change ((Program.parse text).mapError _ >>= _) = _
      rw [parsed]
      rfl
    unfold describeComplexity
    rw [measured]
    exact complexityReport_eq program
  rw [written]
  exact ⟨rfl, parse_report_iff _⟩

def layered : String :=
  "if x:\n def f(a, b=1 if a else 2):\n  assert a and b\n  return a or a or a or a or a or a or a or a or a or a\n" ++
    "class C:\n def m(self): pass\n"

def layeredTree : Tree := Tree.empty.put (Path.home ++ ["layered.py"]) (.file (Text.Utf8.encode layered))

theorem layered_measured : (Program.parse layered).toOption.map
    (fun program => (stmtFunctions program.body).map fun function => (function.1, 1 + stmtDecisions function.2)) =
      some [("f", 11)] := by
  decide +kernel

theorem layered_reported : layeredTree.readText "layered.py" = .ok layered ∧
    parse (describeComplexity layeredTree "layered.py") = .ok (.list [
      .dict [(.text "name", .text "f"), (.text "complexity", .int 11), (.text "grade", .text "CRITICAL")]]) := by
  have read : layeredTree.readText "layered.py" = .ok layered :=
    (Tree.readText_put (by decide) rfl (by decide +kernel)).2
  have measured := layered_measured
  cases parsed : Program.parse layered with
  | error fault =>
    rw [parsed] at measured
    cases measured
  | ok program =>
    rw [parsed] at measured
    have functions := Option.some.inj measured
    have listed : (stmtFunctions program.body).map reported = [listing "f" 11] := by
      have pairs := congrArg (List.map fun pair => listing pair.1 pair.2) functions
      rwa [List.map_map] at pairs
    have short : ∀ function ∈ stmtFunctions program.body, IsShort (1 + stmtDecisions function.2 : Nat) := by
      intro function member
      have pair : (function.1, 1 + stmtDecisions function.2) ∈ [("f", 11)] :=
        functions ▸ List.mem_map_of_mem member
      rw [(Prod.mk.inj (List.mem_singleton.mp pair)).2]
      exact (by decide : (Nat.toDigits 10 11).length ≤ digitLimit)
    have report := (report_lists_functions read parsed).2.mpr short
    rw [listed] at report
    exact ⟨read, report⟩

end Refactory.Analysis
