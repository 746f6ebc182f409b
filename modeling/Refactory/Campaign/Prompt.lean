import Refactory.Text.Search
import Refactory.Text.Uppercase
import Refactory.Campaign.World

/-! The wording of prompts and headings that campaigns share. -/

set_option autoImplicit false

namespace Refactory.Campaign

/-- Lines with a margin, between a first line that is empty and a last one that has the margin only. -/
def block (margin : Nat) (lines : List String) : String :=
  let blanks := String.ofList (List.replicate margin ' ')
  "\n" ++ String.join (lines.map fun line => blanks ++ line ++ "\n") ++ blanks

def printStep (agent action : String) : Action Unit := do
  announce ("\n┌── 🤖 " ++ Text.upper agent ++ " ──────────────────────────────────┐")
  announce ("│ Action: " ++ action)
  announce "└──────────────────────────────────────────────────────────┘"

def testPath (path : String) : String :=
  Text.replace path ".py" "_reaper_test.py"

def testPrompt (code : String) : String :=
  block 4 ["Write a pytest unit test for this code.",
    "Use 'sys.path.append' to handle imports if needed.",
    "Output ONLY raw python code. NO markdown.",
    "",
    "Code:",
    code]

def repositoryAddress : String := "https://github.com/TheAlgorithms/Python"

def repositoryFolder : String := "temp_repo"

end Refactory.Campaign
