import Refactory.Source.Outline
import Refactory.Source.Program

/-! Cyclomatic complexity of the functions of a program.

The complexity of a function is one more than the number of decision points in its body. Definitions
inside it and the operands of assertions are left out. The functions of a program are those outside
other functions and outside classes.
-/

set_option autoImplicit false

namespace Refactory.Analysis

open Source

def ownPoints : Node → Nat
  | .stmt (.tryBlock false _ handlers otherwise _) =>
      handlers.length + (if otherwise.isEmpty then 0 else 1)
  | .stmt (.ifElse _ _ _) => 1
  | .stmt (.forLoop _ _ _ _ otherwise) => 1 + (if otherwise.isEmpty then 0 else 1)
  | .stmt (.whileLoop _ _ otherwise) => 1 + (if otherwise.isEmpty then 0 else 1)
  -- an assertion is a decision point of its own, its operands are not
  | .stmt (.assertion _ _) => 1
  | .expr (.boolean _ operands) => operands.length - 1
  | .expr (.conditional _ _ _) => 1
  | .clause (.mk _ _ conditions _) => 1 + conditions.length
  | _ => 0

/-- Nodes whose parts are not counted with what surrounds them. -/
def isSealed : Node → Bool
  | .stmt (.functionDef _ _ _ _ _ _) => true
  | .stmt (.classDef _ _ _ _ _) => true
  | .stmt (.assertion _ _) => true
  | _ => false

mutual

def decisionPoints : Outline → Nat
  | .node label parts => ownPoints label + (if isSealed label then 0 else decisionPointsAll parts)

def decisionPointsAll : List Outline → Nat
  | [] => 0
  | tree :: rest => decisionPoints tree + decisionPointsAll rest

end

structure Measured where
  name : String
  complexity : Nat
  deriving DecidableEq, Repr

def isStatement : Outline → Bool
  | .node (.stmt _) _ => true
  | _ => false

mutual

def measuredFunctions : Outline → List Measured
  | .node (.stmt (.functionDef _ name _ _ _ _)) parts =>
      -- neither decorators nor default values belong to the body
      [⟨name, 1 + decisionPointsAll (parts.filter isStatement)⟩]
  | .node label parts => if isSealed label then [] else measuredFunctionsAll parts

def measuredFunctionsAll : List Outline → List Measured
  | [] => []
  | tree :: rest => measuredFunctions tree ++ measuredFunctionsAll rest

end

def Measured.ofProgram (program : Program) : List Measured :=
  measuredFunctions program.outline

def criticalAbove : Nat := 10

def Measured.grade (function : Measured) : String :=
  if criticalAbove < function.complexity then "CRITICAL" else "ACCEPTABLE"

end Refactory.Analysis
