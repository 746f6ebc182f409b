import Refactory.Campaign.World

/-! Fresh copies of repositories. -/

set_option autoImplicit false

namespace Refactory.Campaign

open Workspace

def placeFolder (tree : Tree) (path : String) : Except Fault Tree :=
  match tree.ensureFolders path with
  | (made, none) => .ok made
  | (_, some fault) => .error fault

def placeEntry (tree : Tree) (path : String) (entry : Entry) : Except Fault Tree := do
  let above := Path.parent path
  let ready ← if above = "" then pure tree else placeFolder tree above
  match entry with
  | .folder => placeFolder ready path
  | .file bytes => ready.writeBytes path bytes
  | .link target => match ← Tree.checked path (ready.find .naming path (Path.names path)) with
      | .free folder name => return ready.put (folder ++ [name]) (.link target)
      | .entry _ _ => throw (.system .occupied path)

def placeEntries (tree : Tree) : List (String × Entry) → Except Fault Tree
  | [] => .ok tree
  | (path, entry) :: rest => do placeEntries (← placeEntry tree path entry) rest

def fetch (address folder : String) : Action Unit := do
  record (.cloned address folder)
  let world ← get
  match world.script.cloneFailure with
  | some message => throw (.reported message)
  | none =>
      let ready ← orFail (placeFolder world.tree folder)
      let entries := world.script.clone.map fun entry => (Path.join folder entry.1, entry.2)
      let tree ← orFail (placeEntries ready entries)
      -- the copy is the state that later changes are told against
      set { world with tree, baseline := tree }

def discard (folder : String) : Action Unit := do
  record (.removed folder)
  let world ← get
  if world.script.removalDenied then
    say "⚠ Warning: Could not delete temp_repo. Using existing one."
  else
    let tree ← orFail (world.tree.removeFolder folder)
    set { world with tree }

/-- Makes a fresh copy of a repository, or opens the one that could not be removed. -/
def cloneRepository (address folder : String) : Action String := do
  if (← get).tree.has folder then discard folder
  -- still there: it could not be removed
  if (← get).tree.has folder then
    record (.repositoryOpened folder)
  else
    say ("📦 Cloning " ++ address ++ "...")
    fetch address folder
  return folder

end Refactory.Campaign
