import Refactory.Workspace.Files

/-! Going through a folder and the folders in it.

Of a folder come first its files, then its folders with what they hold. A link to a folder is a folder
that is not entered; any other link counts as a file.
-/

set_option autoImplicit false

namespace Refactory.Workspace

/-- A folder, as the path it was reached by, with the names of its files. -/
structure Visit where
  folder : String
  files : List String
  deriving DecidableEq, Repr

namespace Tree

def isLink (tree : Tree) (path : String) : Bool :=
  match checked path (tree.find .naming path (Path.names path)) with
  | .ok (.entry _ (.link _)) => true
  | _ => false

/-- The visits of a folder and of what it holds, `depth` levels down. -/
def visitsWithin (tree : Tree) : Nat → String → List Visit
  | 0, _ => []
  | depth + 1, path =>
      match tree.lookup path with
      | .ok (place, .folder) =>
          let names := tree.namesIn place
          let isInner name := tree.isFolder (Path.join path name)
          let entered := names.filter fun name => isInner name && !tree.isLink (Path.join path name)
          ⟨path, names.filter (!isInner ·)⟩ ::
            entered.flatMap fun name => visitsWithin tree depth (Path.join path name)
      -- what cannot be listed is passed over
      | _ => []

def visits (tree : Tree) (path : String) : List Visit :=
  tree.visitsWithin (tree.entries.length + 1) path

end Tree

def Visit.paths (visit : Visit) : List String :=
  visit.files.map (Path.join visit.folder)

end Refactory.Workspace
