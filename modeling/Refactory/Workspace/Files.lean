import Refactory.Text.Lines
import Refactory.Workspace.Tree

/-! Reading and writing files, making and removing folders.

Texts are kept as UTF-8. On reading, every kind of line end becomes a line feed.
-/

set_option autoImplicit false

namespace Refactory.Workspace

namespace Tree

/-- A path with a null character is refused before it is looked up. -/
def checked {α : Type} (path : String) (action : Except Cause α) : Except Fault α :=
  if path.toList.contains '\x00' then .error .nullByte
  else action.mapError (.system · path)

def has (tree : Tree) (path : String) : Bool :=
  (checked path (tree.lookup path)).isOk

def isFolder (tree : Tree) (path : String) : Bool :=
  match checked path (tree.lookup path) with
  | .ok (_, .folder) => true
  | _ => false

def readBytes (tree : Tree) (path : String) : Except Fault (List UInt8) :=
  checked path do
    match ← tree.lookup path with
    | (_, .file bytes) => return bytes
    | _ => throw .isFolder

def readText (tree : Tree) (path : String) : Except Fault String := do
  let bytes ← tree.readBytes path
  let text ← (Text.Utf8.decode bytes).mapError .encoding
  return String.ofList (Text.unifyLineEnds text.toList)

/-- The number of bytes of the file that a path leads to; a folder has none. -/
def byteCount (tree : Tree) (path : String) : Except Fault Nat :=
  checked path do
    match ← tree.lookup path with
    | (_, .file bytes) => return bytes.length
    | _ => return 0

def writable (tree : Tree) (path : String) : Except Cause Place := do
  match ← tree.find .writing path (Purpose.writing.steps path) with
  | .entry place (.file _) => return place
  | .entry _ _ => throw .isFolder
  | .free folder name => return folder ++ [name]

def writeBytes (tree : Tree) (path : String) (bytes : List UInt8) : Except Fault Tree :=
  checked path do return tree.put (← tree.writable path) (.file bytes)

def writeText (tree : Tree) (path text : String) : Except Fault Tree :=
  tree.writeBytes path (Text.Utf8.encode text)

def makeFolder (tree : Tree) (path : String) : Except Fault Tree :=
  checked path do
    match ← tree.find .naming path (Path.names path) with
    | .free folder name => return tree.put (folder ++ [name]) .folder
    | .entry _ _ => throw .occupied

def ensureFolder (tree : Tree) (path : String) : Tree × Option Fault :=
  match tree.makeFolder path with
  | .ok after => (after, none)
  | .error .nullByte => (tree, some .nullByte)
  -- a folder that is already there is no fault, whatever kept it from being made
  | .error fault => (tree, if tree.isFolder path then none else some fault)

/-- The folder above a path and the last name; a slash at the end does not count. -/
def aboveAndLast (path : String) : String × String :=
  match Path.split path with
  | (above, "") => Path.split above
  | found => found

/-- Makes a folder with those above it; the folders made before a fault stay. At most `depth` folders
above are looked at. -/
def ensureFoldersWithin : Nat → Tree → String → Tree × Option Fault
  | 0, tree, path => tree.ensureFolder path
  | depth + 1, tree, path =>
      match aboveAndLast path with
      | (above, last) =>
          if above = "" || last = "" || tree.has above then tree.ensureFolder path
          else match ensureFoldersWithin depth tree above with
            | (after, some fault) => match fault with
                -- this fault alone is passed over here
                | .system .occupied _ => if last = "." then (after, none) else after.ensureFolder path
                | _ => (after, some fault)
            | (after, none) => if last = "." then (after, none) else after.ensureFolder path

def ensureFolders (tree : Tree) (path : String) : Tree × Option Fault :=
  ensureFoldersWithin path.length tree path

def saveText (tree : Tree) (path text : String) : Tree × Option Fault :=
  match tree.ensureFolders (Path.parent path) with
  -- folders made on the way stay
  | (after, some fault) => (after, some fault)
  | (after, none) => match after.writeText path text with
      | .ok written => (written, none)
      | .error fault => (after, some fault)

/-- Removes the folder that a path names, with everything in it. Files and links are refused. -/
def removeFolder (tree : Tree) (path : String) : Except Fault Tree := do
  match ← checked path (tree.find .naming path (stepsOf path)) with
  | .entry place .folder => return tree.remove place
  | .entry _ (.file _) => throw (.system .notFolder path)
  | .entry _ (.link _) => throw .linkedFolder
  | .free _ _ => throw (.system .missing path)

end Tree

end Refactory.Workspace
