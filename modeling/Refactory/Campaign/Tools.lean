import Refactory.Analysis.ComplexityReport
import Refactory.Campaign.World

/-! The tools of a campaign: files as texts, test runs and searches.

Each tool answers with a text, also when it fails.
-/

set_option autoImplicit false

namespace Refactory.Campaign

open Workspace

def readOrExplain (tree : Tree) (path : String) : String :=
  match tree.readText path with
  | .ok text => text
  | .error fault => "Error reading file: " ++ fault.message

def fileText (path : String) : Action String := do
  return readOrExplain (← get).tree path

def saveFile (path text : String) : Action String := do
  record (.saved path text)
  let world ← get
  -- folders that were made before a fault are kept
  let (tree, fault) := world.tree.saveText path text
  set { world with tree }
  match fault with
  | none => return "Successfully wrote to " ++ path
  | some fault => return "Error writing file: " ++ fault.message

def measureComplexity (path : String) : Action String := do
  return Analysis.describeComplexity (← get).tree path

def TestRun.report : TestRun → String
  | .finished code output errors =>
      if code = 0 then "TESTS PASSED:\n" ++ output
      else "TESTS FAILED:\n" ++ output ++ "\n" ++ errors
  | .failed message => "Error running tests: " ++ message

def nextTestRun : Action TestRun := do
  let world ← get
  match world.script.tests with
  | [] => return .failed "no scripted tests"
  | run :: rest =>
      set { world with script := { world.script with tests := rest } }
      return run

def testCommand (path : String) : List String :=
  ["pytest", path, "-v", "-o", "warning_filter=ignore"]

def runTests (path : String) : Action String := do
  record (.testsRun (testCommand path))
  return (← nextTestRun).report

/-- The pages found up to the first failure, if there is one. -/
def pagesOf : List Finding → Except String (List String)
  | [] => .ok []
  | .page title description address :: rest => do
      let others ← pagesOf rest
      return ("Title: " ++ title ++ "\nDescription: " ++ description ++ "\nURL: " ++ address) :: others
  | .failed message :: _ => .error message

def reportOfSearch (findings : List Finding) : String :=
  match pagesOf findings with
  | .ok pages => String.intercalate "\n---\n" pages
  | .error message => "Search failed: " ++ message

def nextSearch : Action (List Finding) := do
  let world ← get
  match world.script.searches with
  | [] => return []
  | found :: rest =>
      set { world with script := { world.script with searches := rest } }
      return found

def search (query : String) : Action String := do
  record (.searched query)
  return reportOfSearch (← nextSearch)

end Refactory.Campaign
