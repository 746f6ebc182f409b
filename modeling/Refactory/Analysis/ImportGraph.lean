import Refactory.Source.Outline
import Refactory.Source.Program
import Refactory.Table
import Refactory.Workspace.Walk

/-! Which files of a folder import which.

A file is known by its name alone: the last file of a name in the order of the walk stands for all.
What imports `m` leads to the file `m.py`; of several names imported at once only the last counts.
-/

set_option autoImplicit false

namespace Refactory.Analysis

open Source Workspace

def importedName? : Node → Option String
  | .stmt (.importNames aliases) => aliases.getLast?.map (·.name.text)
  | .stmt (.importFrom origin _ _) => origin.map Spelling.text
  | _ => none

/-- The names that a program imports, in order from the outer statements to the inner ones. -/
def importedNames (program : Program) : List String :=
  program.nodes.filterMap importedName?

/-- Files by their paths, each with the paths of the files that import it. -/
abbrev ImportGraph := Table (List String)

namespace ImportGraph

def addImporter (graph : ImportGraph) (path importer : String) : ImportGraph :=
  -- a file is named once, however often it imports another
  let known := (graph.get? path).getD []
  if known.contains importer then graph else Table.set path (known ++ [importer]) graph

def isPythonFile (name : String) : Bool :=
  Text.endsWith name ".py"

def fileIndex (visits : List Visit) : Table String :=
  let files := visits.flatMap fun visit =>
    (visit.files.filter isPythonFile).map fun name => (name, Path.join visit.folder name)
  files.foldl (fun index file => Table.set file.1 file.2 index) []

def importsOf (tree : Tree) (path : String) : List String :=
  match tree.readText path with
  -- files that cannot be read or are no programs import nothing
  | .error _ => []
  | .ok text => match Program.parse text with
      | .error _ => []
      | .ok program => importedNames program

def addImports (tree : Tree) (index : Table String) (graph : ImportGraph) (path : String) :
    ImportGraph :=
  ((importsOf tree path).filterMap fun name => index.get? (name ++ ".py")).foldl
    (fun graph target => graph.addImporter target path) graph

def ofFolder (tree : Tree) (folder : String) : ImportGraph :=
  let index := fileIndex (tree.visits folder)
  (index.map Prod.snd).foldl (addImports tree index) []

def importersOf (graph : ImportGraph) (path : String) : List String :=
  (graph.get? path).getD []

def constraints (graph : ImportGraph) (path : String) : String :=
  match graph.importersOf path with
  | [] => "No external dependencies found. You have full freedom to refactor."
  | importers => String.intercalate "\n" <|
      ["CRITICAL: This file is imported by " ++ toString importers.length ++ " other files.",
        "You MUST preserve the following potential interfaces:"]
      ++ importers.map (fun importer => "- Imported by: " ++ Path.fileName importer)
      ++ ["DO NOT change public function names or class names.",
        "DO NOT change argument order in public functions."]

end ImportGraph

/-- The Python files below a folder that are neither tests nor part of a version store. -/
def sourceFiles (tree : Tree) (folder : String) : List String :=
  (tree.visits folder).flatMap fun visit =>
    if Text.contains visit.folder ".git" then []
    else (visit.files.filter fun name =>
      ImportGraph.isPythonFile name && !Text.contains name "test").map (Path.join visit.folder)

end Refactory.Analysis
