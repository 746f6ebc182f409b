import Refactory.Analysis.Complexity
import Refactory.Json.Printer
import Refactory.Workspace.Files

/-! The report on the complexity of a file's functions, as JSON. -/

set_option autoImplicit false

namespace Refactory.Analysis

open Source Workspace

def Measured.value (function : Measured) : Value :=
  .dict [(.text "name", .text function.name), (.text "complexity", .int function.complexity),
    (.text "grade", .text function.grade)]

def complexityReport (program : Program) : String :=
  Json.render (.lines 2) (.list ((Measured.ofProgram program).map Measured.value))

inductive ReportFault where
  | unreadable (fault : Workspace.Fault)
  | malformed (error : SyntaxError)

def ReportFault.message : ReportFault → String
  | .unreadable fault => fault.message
  | .malformed error => error.message

def measureFile (tree : Tree) (path : String) : Except ReportFault String := do
  let text ← (tree.readText path).mapError .unreadable
  let program ← (Program.parse text).mapError .malformed
  return complexityReport program

def describeComplexity (tree : Tree) (path : String) : String :=
  match measureFile tree path with
  | .ok report => report
  | .error fault => "Error analyzing complexity: " ++ fault.message

end Refactory.Analysis
