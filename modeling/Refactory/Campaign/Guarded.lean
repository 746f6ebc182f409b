import Refactory.Analysis.ImportGraph
import Refactory.Analysis.ScopeCheck
import Refactory.Analysis.SyntaxCheck
import Refactory.Campaign.Agent
import Refactory.Campaign.Prompt
import Refactory.Campaign.Repository
import Refactory.Campaign.Tools
import Refactory.Memory.Bank

/-! The guarded campaign: one target is refactored, tested and repaired.

The new code must be a program and keep the global names of the old one; there are three attempts at
that. The code is then saved, tests are written for it and run, and code that fails its tests is
repaired up to three times.
-/

set_option autoImplicit false

namespace Refactory.Campaign.Guarded

open Workspace Analysis

def scanLimit : Nat := 50

def primeLimit : Nat := 3

def leastSize : Nat := 500

/-- The targets found so far, in the order in which they are to be taken, and the prime ones among them
in the order of finding. -/
structure Scan where
  queue : List String
  primes : List String
  deriving DecidableEq, Repr

def isEligible (tree : Tree) (path : String) : Bool :=
  match tree.byteCount path with
  | .ok size => leastSize ≤ size && !Text.contains path "__init__"
  -- a link that leads nowhere has no size
  | .error _ => false

/-- Takes in one more file: prime targets go to the front, others to the back. -/
def Scan.take (tree : Tree) (scan : Scan) (path : String) : Scan :=
  -- after the last prime target no file is taken in, prime or not
  if primeLimit ≤ scan.primes.length then scan
  else if !isEligible tree path then scan
  else if Text.contains path "binary_search" then
    { queue := path :: scan.queue, primes := scan.primes ++ [path] }
  else if Text.contains path "permutation" then { scan with queue := scan.queue ++ [path] }
  else scan

def scanFiles (tree : Tree) (files : List String) : Scan :=
  (files.take scanLimit).foldl (Scan.take tree) ⟨[], []⟩

inductive Rejection where
  | syntaxError (message : String)
  | scope (message : String)
  deriving DecidableEq, Repr

def Rejection.notice : Rejection → String
  | .syntaxError message => "❌ Syntax Error: " ++ message
  | .scope message => "🛡️ SCOPE GUARDIAN TRIGGERED: " ++ message

def Rejection.feedback : Rejection → String
  | .syntaxError message => "Syntax Error: " ++ message
  | .scope message =>
      "CRITICAL SAFETY VIOLATION: " ++ message ++ ". You must pass these variables as arguments."

def judge (old code : String) : Option Rejection :=
  match checkSyntax code with
  | .invalid error => some (.syntaxError (SyntaxVerdict.invalid error).message)
  | .valid =>
      let verdict := checkScope old code
      if verdict.isAccepted then none else some (.scope verdict.message)

def prompt (constraints code : String) : String :=
  block 8 ["You are a Senior Architect. Refactor this code to reduce complexity and improve readability.",
    "",
    constraints,
    "",
    "Original Code:",
    code,
    "",
    "CRITICAL INSTRUCTIONS:",
    "1. Output ONLY raw Python code. NO markdown blocks.",
    "2. Use Type Hints.",
    "3. Do NOT lose functionality."]

def promptAfter (first : String) : Option Rejection → String
  | none => first
  | some rejection =>
      first ++ "\n\nPREVIOUS ATTEMPT REJECTED. FIX THIS ERROR: " ++ rejection.feedback

def attemptLimit : Nat := 3

def refactor (agent : Agent) (old first : String) : Nat → Option Rejection → Action (Option String)
  | 0, _ => return none
  | left + 1, last => do
      announce ("Attempt " ++ toString (attemptLimit - left) ++ " to generate safe code...")
      let code ← agent.ask (promptAfter first last)
      match judge old code with
      | none => return some code
      | some rejection =>
          -- the next prompt tells what was wrong with this code
          announce rejection.notice
          refactor agent old first left (some rejection)

def writeTests (agent : Agent) (path code : String) : Action Unit := do
  printStep "Executioner" "Generating Regression Tests..."
  let tests ← agent.ask (testPrompt code)
  let _ ← saveFile path tests
  announce ("✔ Tests saved to " ++ Path.fileName path)

def showsSuccess (report : String) : Bool :=
  Text.contains report "passed"

def showsOnlySuccess (report : String) : Bool :=
  Text.contains report "passed" && !Text.contains report "failed"

def repairPrompt (report code : String) : String :=
  "Fix this code based on test failure:\nTests failed:\n" ++ report ++
    "\nFix the code to pass these tests.\n\nCode:\n" ++ code ++ "\n\nReturn ONLY raw python."

def repairLimit : Nat := 3

/-- Runs the tests and repairs the code until they pass, so many times more. Tells whether they did. -/
def heal (agent : Agent) (target tests : String) : Nat → String → Action Bool
  | 0, _ => return false
  | left + 1, code => do
      printStep "Executioner"
        ("Running Validation (Attempt " ++ toString (repairLimit - left) ++ ")...")
      let report ← runTests tests
      if showsOnlySuccess report then
        announce "🎉 SUCCESS: Refactor verified clean."
        log ("SUCCESS: " ++ target)
        return true
      else
        announce "❌ Tests Failed. Triggering Self-Healing..."
        let patch ← agent.ask (repairPrompt report code)
        -- a patch that is no program is not saved, and yet is what the next round repairs
        if (checkSyntax patch).isValid then
          let _ ← saveFile target patch
          announce "🩹 Patch applied. Retrying tests..."
        heal agent target tests left patch

def commit (coder examiner : Agent) (target code : String) : Action Unit := do
  let _ ← saveFile target code
  announce "✔ Code passed Safety Protocols. Applied to disk."
  let tests := testPath target
  writeTests examiner tests code
  printStep "Executioner" "Running Validation..."
  let report ← runTests tests
  if showsSuccess report then
    announce "🎉 SUCCESS: Refactor verified clean."
    log ("SUCCESS: " ++ target)
  else
    announce "⚠ WARNING: Tests failed. Manual review required."
    log ("FAILURE: " ++ target)
  -- the tests are written and run anew, whatever the first run showed
  writeTests examiner tests code
  if !(← heal coder target tests repairLimit code) then
    announce "🛑 Manual Review Required."

def treat (graph : ImportGraph) (target : String) : Action Unit := do
  announce ("\n--- INITIATING SEMANTIC REFACTOR ON: " ++ target ++ " ---")
  let constraints := graph.constraints target
  announce ("🛡️ ACTIVATING DEPENDENCY SHIELD:\n" ++ constraints)
  let coder ← refactorer.make
  let examiner ← tester.make
  let old ← fileText target
  match ← refactor coder old (prompt constraints old) attemptLimit none with
  | none =>
      announce ("🛑 FATAL: Could not generate safe code after " ++ toString attemptLimit ++ " attempts.")
  | some code => commit coder examiner target code

def campaign : Action Unit := do
  announce "🚀 INITIALIZING RESEARCH PROTOCOL: GRAPH-GUIDED SEMANTIC REFACTORING"
  let folder ← cloneRepository repositoryAddress repositoryFolder
  announce "🕸️ Constructing AST Dependency Graph (Novelty Layer)..."
  let tree := (← get).tree
  let graph := ImportGraph.ofFolder tree folder
  log "Graph Construction Complete."
  let files := sourceFiles tree folder
  announce ("🔍 Scanning " ++ toString files.length ++ " files for Technical Debt...")
  let scan := scanFiles tree files
  scan.primes.forM fun path => announce ("  Found PRIME Target: " ++ Path.fileName path)
  announce ("🎯 Targets Acquired: " ++ toString scan.queue.length ++ " candidates.")
  match scan.queue with
  | [] => announce "No targets found. Try increasing scan_limit."
  | target :: _ => treat graph target

def run : Action Unit := do
  match Memory.Bank.load (← get).tree Memory.defaultPath with
  | .error failure => throw failure
  | .ok _ => campaign

end Refactory.Campaign.Guarded
