import Refactory.Analysis.ImportGraph
import Refactory.Analysis.SyntaxCheck
import Refactory.Campaign.Agent
import Refactory.Campaign.Prompt
import Refactory.Campaign.Repository
import Refactory.Campaign.Tools
import Refactory.Memory.Bank

/-! The single-pass campaign: one target is refactored once and tested once.

The new code must be a program; nothing else is asked of it.
-/

set_option autoImplicit false

namespace Refactory.Campaign.Single

open Workspace Analysis

def scanLimit : Nat := 20

def leastSize : Nat := 1000

/-- Is a report free of complexities that start with one or two? -/
def isInteresting (report : String) : Bool :=
  !Text.contains report "\"complexity\": 1" && !Text.contains report "\"complexity\": 2"

def isLarge (tree : Tree) (path : String) : Bool :=
  match tree.byteCount path with
  | .ok size => leastSize ≤ size
  | .error _ => false

/-- The targets among the files, of which so many large ones are measured. -/
def scanFiles (tree : Tree) (files : List String) : List String :=
  -- small files do not count towards the limit
  ((files.filter (isLarge tree)).take scanLimit).filter fun path =>
    isInteresting (describeComplexity tree path)

def prompt (constraints code : String) : String :=
  block 4 ["You are a Senior Architect. Refactor this code to reduce complexity and improve readability.",
    "",
    constraints,
    "",
    "Original Code:",
    code,
    "",
    "CRITICAL INSTRUCTIONS:",
    "1. Output ONLY raw Python code.",
    "2. Maintain all functionality.",
    "3. Add Type Hints."]

def testPrompt (code : String) : String :=
  block 4 ["Write a pytest unit test for this code to ensure I didn't break logic.",
    "Use 'sys.path.append' to handle imports if needed.",
    "Output ONLY raw python code.",
    "",
    "Code:",
    code]

def commit (examiner : Agent) (target code : String) : Action Unit := do
  let _ ← saveFile target code
  announce "✔ Code applied to disk."
  printStep "Executioner" "Generating Regression Tests..."
  let tests ← examiner.ask (testPrompt code)
  let path := testPath target
  let _ ← saveFile path tests
  announce ("✔ Tests saved to " ++ Path.fileName path)
  printStep "Executioner" "Running Validation..."
  if Text.contains (← runTests path) "passed" then
    announce "🎉 SUCCESS: Refactor verified clean."
    log ("SUCCESS: " ++ target)
  else
    announce "⚠ WARNING: Tests failed. Manual review required."
    log ("FAILURE: " ++ target)

def treat (graph : ImportGraph) (target : String) : Action Unit := do
  announce ("\n--- INITIATING REFACTOR ON: " ++ target ++ " ---")
  let constraints := graph.constraints target
  announce ("🛡️ ACTIVATING DEPENDENCY SHIELD:\n" ++ constraints)
  let coder ← refactorer.make
  let examiner ← tester.make
  let old ← fileText target
  printStep "Surgeon" "Generating optimized code..."
  let code ← coder.ask (prompt constraints old)
  if (checkSyntax code).isValid then commit examiner target code
  else announce "❌ Syntax Error generated. Aborting to protect repo."

def campaign : Action Unit := do
  announce "🚀 INITIALIZING RESEARCH PROTOCOL: GRAPH-AWARE REFACTORING"
  let folder ← cloneRepository repositoryAddress repositoryFolder
  announce "🕸️ Constructing AST Dependency Graph..."
  let tree := (← get).tree
  let graph := ImportGraph.ofFolder tree folder
  let files := sourceFiles tree folder
  announce ("🔍 Scanning " ++ toString files.length ++ " files for complexity...")
  let targets := scanFiles tree files
  targets.forM fun path => announce ("  Found Target: " ++ Path.fileName path)
  announce ("🎯 Targets Acquired: " ++ toString targets.length ++ " candidates.")
  match targets with
  | [] => announce "No high-complexity files found in the scan limit. Try increasing scan_limit."
  | target :: _ => treat graph target

def run : Action Unit := do
  match Memory.Bank.load (← get).tree Memory.defaultPath with
  | .error failure => throw failure
  | .ok _ => campaign

end Refactory.Campaign.Single
