import Refactory.Proofs.Analysis.Complexity
import Refactory.Proofs.Analysis.Scope
import Refactory.Proofs.Analysis.Unmeasured

/-! Critical functions and methods in a report.

A critical function is listed as such, but a report says nothing of what is in a class: it is the report on the program
with all its classes emptied. So a critical method is missed, unless a function outside of classes happens to have its
name and its complexity.
-/

set_option autoImplicit false

namespace Refactory.Source

/-! ## Methods -/

mutual

/-- The methods of the classes of a statement that are in no function and in no other class, with their bodies. -/
def Stmt.methods : Stmt → List (String × List Stmt)
  | .classDef _ _ _ body _ => stmtFunctions body
  | .ifElse _ body otherwise => stmtMethods body ++ stmtMethods otherwise
  | .forLoop _ _ _ body otherwise => stmtMethods body ++ stmtMethods otherwise
  | .whileLoop _ body otherwise => stmtMethods body ++ stmtMethods otherwise
  | .tryBlock _ body handlers otherwise last =>
      stmtMethods body ++ handlerMethods handlers ++ stmtMethods otherwise ++ stmtMethods last
  | .withBlock _ _ body => stmtMethods body
  | .matchOn _ cases => caseMethods cases
  | _ => []

def stmtMethods : List Stmt → List (String × List Stmt)
  | [] => []
  | stmt :: rest => stmt.methods ++ stmtMethods rest

def handlerMethods : List Handler → List (String × List Stmt)
  | [] => []
  | .mk _ _ body :: rest => stmtMethods body ++ handlerMethods rest

def caseMethods : List Case → List (String × List Stmt)
  | [] => []
  | .mk _ _ body :: rest => stmtMethods body ++ caseMethods rest

end

mutual

def Stmt.emptied : Stmt → Stmt
  | .classDef name bases keywords _ decorators => .classDef name bases keywords [.pass] decorators
  | .ifElse test body otherwise => .ifElse test (stmtsEmptied body) (stmtsEmptied otherwise)
  | .forLoop isAsync target source body otherwise =>
      .forLoop isAsync target source (stmtsEmptied body) (stmtsEmptied otherwise)
  | .whileLoop test body otherwise => .whileLoop test (stmtsEmptied body) (stmtsEmptied otherwise)
  | .tryBlock groups body handlers otherwise last =>
      .tryBlock groups (stmtsEmptied body) (handlersEmptied handlers) (stmtsEmptied otherwise) (stmtsEmptied last)
  | .withBlock isAsync items body => .withBlock isAsync items (stmtsEmptied body)
  | .matchOn subject cases => .matchOn subject (casesEmptied cases)
  | other => other

def stmtsEmptied : List Stmt → List Stmt
  | [] => []
  | stmt :: rest => stmt.emptied :: stmtsEmptied rest

def handlersEmptied : List Handler → List Handler
  | [] => []
  | .mk error name body :: rest => .mk error name (stmtsEmptied body) :: handlersEmptied rest

def casesEmptied : List Case → List Case
  | [] => []
  | .mk pattern guard body :: rest => .mk pattern guard (stmtsEmptied body) :: casesEmptied rest

end

def Program.emptied (program : Program) : Program := ⟨stmtsEmptied program.body⟩

/-- Emptying the classes keeps these functions, and leaves these methods: none. -/
structure Empties (functions kept methods : List (String × List Stmt)) : Prop where
  functions_eq : kept = functions
  methods_eq : methods = []

namespace Empties

variable {functions kept methods later keptLater methodsLater : List (String × List Stmt)}

theorem nil : Empties [] [] [] := ⟨rfl, rfl⟩

theorem append (first : Empties functions kept methods) (second : Empties later keptLater methodsLater) :
    Empties (functions ++ later) (kept ++ keptLater) (methods ++ methodsLater) :=
  ⟨by rw [first.functions_eq, second.functions_eq], by rw [first.methods_eq, second.methods_eq]; rfl⟩

end Empties

mutual

-- By the rules of the statement: what holds other statements only passes on what is found in them.
theorem empties_stmt : ∀ stmt : Stmt, Empties stmt.functions stmt.emptied.functions stmt.emptied.methods
  | .classDef _ _ _ _ _ | .functionDef _ _ _ _ _ _ => ⟨rfl, rfl⟩
  | .ifElse _ body otherwise => (empties_stmts body).append (empties_stmts otherwise)
  | .forLoop _ _ _ body otherwise => (empties_stmts body).append (empties_stmts otherwise)
  | .whileLoop _ body otherwise => (empties_stmts body).append (empties_stmts otherwise)
  | .tryBlock _ body handlers otherwise last =>
      (((empties_stmts body).append (empties_handlers handlers)).append (empties_stmts otherwise)).append
        (empties_stmts last)
  | .withBlock _ _ body => empties_stmts body
  | .matchOn _ cases => empties_cases cases
  | .ret _ | .del _ | .assign _ _ | .augAssign _ _ _ | .annAssign _ _ _ _ | .raising _ _ | .assertion _ _
  | .importNames _ | .importFrom _ _ _ | .globalNames _ | .nonlocalNames _ | .expression _ | .pass | .breakLoop
  | .continueLoop => .nil

theorem empties_stmts : ∀ stmts : List Stmt,
    Empties (stmtFunctions stmts) (stmtFunctions (stmtsEmptied stmts)) (stmtMethods (stmtsEmptied stmts))
  | [] => .nil
  | stmt :: rest => (empties_stmt stmt).append (empties_stmts rest)

theorem empties_handlers : ∀ handlers : List Handler,
    Empties (handlerFunctions handlers) (handlerFunctions (handlersEmptied handlers))
      (handlerMethods (handlersEmptied handlers))
  | [] => .nil
  | .mk _ _ body :: rest => (empties_stmts body).append (empties_handlers rest)

theorem empties_cases : ∀ cases : List Case,
    Empties (caseFunctions cases) (caseFunctions (casesEmptied cases)) (caseMethods (casesEmptied cases))
  | [] => .nil
  | .mk _ _ body :: rest => (empties_stmts body).append (empties_cases rest)

end

end Refactory.Source

namespace Refactory.Analysis

open Source Workspace Json

/-! ## The report -/

/-- Emptying the classes of a program takes nothing from its report. -/
theorem complexityReport_emptied (program : Program) :
    complexityReport program.emptied = complexityReport program := by
  rw [complexityReport_eq, complexityReport_eq, Program.emptied, (empties_stmts program.body).functions_eq]

def criticalListing (name : String) (complexity : Nat) : Value :=
  .dict [(.text "name", .text name), (.text "complexity", .int complexity), (.text "grade", .text "CRITICAL")]

theorem listing_eq_critical_iff {name other : String} {complexity number : Nat} :
    listing other number = criticalListing name complexity ↔ other = name ∧ number = complexity ∧ 10 < complexity := by
  have grade : (if 10 < number then "CRITICAL" else "ACCEPTABLE") = "CRITICAL" ↔ 10 < number := by
    split
    · next above => exact iff_of_true rfl above
    · next below => exact iff_of_false (by decide) below
  -- the grade follows from the complexity, so an entry is told apart by its name and its number
  simp only [listing, criticalListing, Value.dict.injEq, List.cons.injEq, Prod.mk.injEq, true_and, and_true,
    Value.text.injEq, Value.int.injEq, Int.natCast_inj, grade]
  constructor
  · rintro ⟨sameName, rfl, above⟩
    exact ⟨sameName, rfl, above⟩
  · rintro ⟨sameName, rfl, above⟩
    exact ⟨sameName, rfl, above⟩

/-- Listed as critical are the functions outside of classes that are so. -/
theorem critical_listed_iff (functions : List (String × List Stmt)) (name : String) (complexity : Nat) :
    criticalListing name complexity ∈ functions.map reported ↔
      10 < complexity ∧ ∃ body, (name, body) ∈ functions ∧ 1 + stmtDecisions body = complexity := by
  rw [List.mem_map]
  constructor
  · rintro ⟨⟨other, body⟩, member, same⟩
    obtain ⟨rfl, count, above⟩ := listing_eq_critical_iff.mp same
    exact ⟨above, body, member, count⟩
  · rintro ⟨above, body, member, count⟩
    exact ⟨(name, body), member, listing_eq_critical_iff.mpr ⟨rfl, count, above⟩⟩

/-- Every critical function outside of classes is listed as such, and nothing else is. The report is the one on the
program with its classes emptied. So all critical functions and methods are listed exactly if each critical method
shares its name and its complexity with a function outside of classes. -/
theorem critical_all_listed_iff {tree : Tree} {path text : String} {program : Program}
    (read : tree.readText path = .ok text) (parsed : Program.parse text = .ok program) :
    describeComplexity tree path = render (.lines 2) (.list ((stmtFunctions program.body).map reported)) ∧
    (∀ name complexity, criticalListing name complexity ∈ (stmtFunctions program.body).map reported ↔
      10 < complexity ∧ ∃ body, (name, body) ∈ stmtFunctions program.body ∧ 1 + stmtDecisions body = complexity) ∧
    describeComplexity tree path = complexityReport program.emptied ∧ stmtMethods program.emptied.body = [] ∧
    ((∀ name body, (name, body) ∈ stmtFunctions program.body ++ stmtMethods program.body →
        10 < 1 + stmtDecisions body →
        criticalListing name (1 + stmtDecisions body) ∈ (stmtFunctions program.body).map reported) ↔
      ∀ name body, (name, body) ∈ stmtMethods program.body → 10 < 1 + stmtDecisions body →
        ∃ other, (name, other) ∈ stmtFunctions program.body ∧ stmtDecisions other = stmtDecisions body) := by
  have written : describeComplexity tree path = complexityReport program := by
    unfold describeComplexity
    rw [measureFile_of_program read parsed]
  refine ⟨written.trans (complexityReport_eq program), critical_listed_iff _,
    written.trans (complexityReport_emptied program).symm, (empties_stmts program.body).methods_eq, ?_⟩
  simp only [critical_listed_iff]
  -- a function is listed by itself, so only the methods are in question
  constructor
  · intro all name body method above
    obtain ⟨_, other, member, count⟩ := all name body (List.mem_append_right _ method) above
    exact ⟨other, member, Nat.add_left_cancel count⟩
  · intro shared name body member above
    refine ⟨above, ?_⟩
    rcases List.mem_append.mp member with function | method
    · exact ⟨body, function, rfl⟩
    · obtain ⟨other, listed, count⟩ := shared name body method above
      exact ⟨other, listed, by rw [count]⟩

def branchy : String := "class C:\n def m(self, a):\n  return a or a or a or a or a or a or a or a or a or a or a\n"

def branchyTree : Tree := Tree.empty.put (Path.home ++ ["branchy.py"]) (.file (Text.Utf8.encode branchy))

theorem branchy_measured : (Program.parse branchy).isOk = true ∧
    (stmtFunctions (programOf branchy).body).map measure = [] ∧
    (stmtMethods (programOf branchy).body).map measure = [⟨"m", 11⟩] := by
  decide +kernel

theorem branchy_method_missed :
    describeComplexity branchyTree "branchy.py" = "[]" ∧
      ∃ body, ("m", body) ∈ stmtMethods (programOf branchy).body ∧ 1 + stmtDecisions body = 11 ∧
        criticalListing "m" 11 ∉ (stmtFunctions (programOf branchy).body).map reported := by
  have read : branchyTree.readText "branchy.py" = .ok branchy :=
    (Tree.readText_put (by decide) rfl (by decide +kernel)).2
  obtain ⟨parses, noFunctions, oneMethod⟩ := branchy_measured
  have none_outside : stmtFunctions (programOf branchy).body = [] := List.map_eq_nil_iff.mp noFunctions
  have method : (⟨"m", 11⟩ : Measured) ∈ (stmtMethods (programOf branchy).body).map measure :=
    oneMethod ▸ List.mem_singleton_self _
  obtain ⟨⟨name, body⟩, member, same⟩ := List.mem_map.mp method
  obtain ⟨rfl, count⟩ := Measured.mk.inj same
  obtain ⟨report, listed, _⟩ := critical_all_listed_iff read (parse_eq_programOf parses)
  rw [none_outside] at report listed
  refine ⟨report, body, member, count, ?_⟩
  rw [none_outside, listed]
  rintro ⟨_, other, outside, _⟩
  cases outside

end Refactory.Analysis
