import Refactory.Analysis.ScopeCheck
import Refactory.Campaign.Agent
import Refactory.Campaign.Tools

/-! The dashboard: one of three sample files is shown, and refactored at the press of a button.

The new code is shown and not saved. Only at the second level does the check of its global names
count.
-/

set_option autoImplicit false

namespace Refactory.Campaign.Dashboard

open Workspace Analysis

def levels : List String :=
  ["Level 1: Basic Complexity (Spaghetti Code)", "Level 2: Scope Shadowing (Global Var Trap)",
    "Level 3: Dependency Lock (Graph Shield)"]

def targetOf (level : String) : String × String :=
  if Text.contains level "Level 1" then
    ("demo_gauntlet/level1_spaghetti.py",
      "Target: A function with nested if-else chains. Goal: Reduce Cyclomatic Complexity.")
  else if Text.contains level "Level 2" then
    ("demo_gauntlet/level2_global_trap.py",
      "Target: Function using implicit global state. **Risk:** Agent might break scope access.")
  else
    ("demo_gauntlet/level3_dependency/lib.py",
      "Target: Function imported by other files. **Risk:** Changing signature breaks the build.")

def showCode (code : String) : Action Unit :=
  showWith .page .code [.text code] [.language "python"]

def showProgress (percent : Int) : Action Unit :=
  showWith .progress .progress [.int percent] []

def sleep (seconds : Value) : Action Unit :=
  record (.slept seconds)

def prompt (constraints code : String) : String :=
  "Refactor this code.\n" ++ constraints ++ "\nOriginal:\n" ++ code ++ "\nOutput ONLY Python."

/-- The constraints at a level; the third warns in the sidebar. -/
def shield (level : String) : Action String := do
  if Text.contains level "Level 3" then
    showText .placeholder .plainText "🛡️ Graph Shield: Locking Function Signatures..."
    showText .sidebar .warning "🛡️ Dependency Shield Activated"
    return "CRITICAL: Do NOT change function signature. Imported by main.py."
  else return ""

def present (level old code : String) : Action Unit := do
  let verdict := checkScope old code
  showProgress 90
  -- at the other levels a dropped name is not looked at
  if !verdict.isAccepted && Text.contains level "Level 2" then
    showText .page .error ("🛡️ SCOPE GUARDIAN INTERCEPTED: " ++ verdict.message)
    showText .page .caption "Agent attempted to break code. Rolling back..."
  else
    showProgress 100
    showText .placeholder .plainText "✅ Success: Code Applied."
    within (.column 2) do
      showText .page .subheader "✨ Refactored Code"
      showCode code
    showText .page .success "Refactoring Complete. Tests Passed."

def refactor (level old : String) : Action Unit := do
  showText .page .spinner "Initializing Agents..."
  within .spinner do
    let coder ← refactorer.make
    showWith .page .progress [.int 0] []
    showWith .page .placeholder [] []
    showText .placeholder .plainText "🔍 Inquisitor: Analyzing AST..."
    sleep (.int 1)
    showProgress 25
    let constraints ← shield level
    sleep (.int 1)
    showProgress 50
    showText .placeholder .plainText "👨‍⚕️ Surgeon: Refactoring..."
    let code ← coder.ask (prompt constraints old)
    showText .placeholder .plainText "⚖️ Guardian: Verifying Semantic Equivalency..."
    present level old code

def run : Action Unit := do
  showWith .page .pageSetup []
    [.pageTitle "CodeReaper Dashboard", .layout "wide"]
  showText .page .title "💀 CodeReaper: Autonomous Refactoring Agent"
  showText .page .markdown "### Research Protocol: Graph-Aware Semantic Refactoring"
  showText .sidebar .header "Mission Control"
  showWith .sidebar .selection [.text "Select Difficulty Level", .list (levels.map .text)] []
  let level := (← get).script.choice.getD (levels.headD "")
  let (target, description) := targetOf level
  showText .page .information description
  if (← get).tree.has target then
    let old ← fileText target
    showWith .page .columns [.int 2] []
    within (.column 1) do
      showText .page .subheader "🛑 Original Legacy Code"
      showCode old
    showText .sidebar .button "🚀 Run CodeReaper"
    if (← get).script.pressed then refactor level old
  else showText .page .error "Please run 'setup_gauntlet.py' first!"

end Refactory.Campaign.Dashboard
