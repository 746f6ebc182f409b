import Refactory.Analysis.Names
import Refactory.Text.Quoted

/-! The check that new code keeps the global names of the code it replaces.

A global name may become a parameter instead. -/

set_option autoImplicit false

namespace Refactory.Analysis

open Source

inductive ScopeVerdict where
  | accepted
  | unreadable
  | dropped (names : List String)
  deriving DecidableEq, Repr

def ScopeVerdict.isAccepted : ScopeVerdict → Bool
  | .accepted => true
  | _ => false

def ScopeVerdict.message : ScopeVerdict → String
  | .accepted => "Scope Safety Check Passed."
  | .unreadable => "Syntax Error in New Code"
  | .dropped names =>
      "CRITICAL SAFETY VIOLATION: Refactor dropped usage of Global Variables: " ++
        Text.quotedList names ++ ". This triggers 'Scope Shadowing' [Edge Case II]."

/-- The names of `before` that a new program neither uses globally nor takes as parameters. -/
def droppedNames (before : List String) (program : Program) : List String :=
  let kept := globalNames program ++ program.nodes.flatMap positionalParameters
  before.filter (!kept.contains ·)

def checkScope (old new : String) : ScopeVerdict :=
  match Program.parse new with
  | .error _ => .unreadable
  -- old code that is no program has no names to keep
  | .ok program => match droppedNames (globalNamesOfText old) program with
      | [] => .accepted
      | names => .dropped names

end Refactory.Analysis
