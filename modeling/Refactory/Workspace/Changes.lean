import Refactory.Workspace.Tree

/-! The files in which two trees differ. -/

set_option autoImplicit false

namespace Refactory.Workspace

def Tree.fileAt? (tree : Tree) (place : Place) : Option (List UInt8) :=
  match tree.get? place with
  | some (.file bytes) => some bytes
  | _ => none

/-- The places of the files of a tree below the folder that relative paths start from. -/
def Tree.filePlaces (tree : Tree) : List Place :=
  tree.entries.filterMap fun
    | (place, .file _) => if Path.home.isPrefixOf place then some place else none
    | _ => none

/-- A file that differs: its relative path and its new bytes, if it is still there. -/
structure Change where
  path : String
  after : Option (List UInt8)
  deriving DecidableEq, Repr

def relativePath (place : Place) : String :=
  String.intercalate "/" (place.drop Path.home.length)

def changes (before after : Tree) : List Change :=
  let places := (before.filePlaces ++ after.filePlaces).eraseDups.filter fun place =>
    before.fileAt? place ≠ after.fileAt? place
  let found := places.map fun place => Change.mk (relativePath place) (after.fileAt? place)
  found.mergeSort fun left right => !(right.path < left.path)

end Refactory.Workspace
