import Refactory.Source.Program

/-! The check that a text is a program. -/

set_option autoImplicit false

namespace Refactory.Analysis

open Source

inductive SyntaxVerdict where
  | valid
  | invalid (error : SyntaxError)

def SyntaxVerdict.isValid : SyntaxVerdict → Bool
  | .valid => true
  | .invalid _ => false

def SyntaxVerdict.message : SyntaxVerdict → String
  | .valid => "Syntax Valid"
  | .invalid error => "Syntax Error: " ++ error.message

def checkSyntax (text : String) : SyntaxVerdict :=
  match Program.parse text with
  | .ok _ => .valid
  | .error error => .invalid error

end Refactory.Analysis
