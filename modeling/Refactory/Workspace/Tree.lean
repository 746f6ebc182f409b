import Refactory.Workspace.Path
import Refactory.Workspace.Fault

/-! A tree of files, folders and symbolic links, and what a path leads to in it.

A tree is a table from places to entries. A place is the list of names from the top; the folders on the
way to an entry are entries of their own. The order in which a folder gives its names is part of the tree
and may be any. Links are followed up to a fixed number of times.
-/

set_option autoImplicit false

namespace Refactory.Workspace

abbrev Place := List String

inductive Entry where
  | folder
  | file (bytes : List UInt8)
  | link (target : String)
  deriving DecidableEq, Repr

/-- The order in which folders give their names. -/
structure Listing where
  arrange (folder : Place) (names : List String) : List String
  perm (folder : Place) (names : List String) : (arrange folder names).Perm names

def Listing.sorted : Listing where
  arrange _ names := Text.sorted names
  perm _ names := List.mergeSort_perm names _

structure Tree where
  entries : List (Place × Entry)
  listing : Listing

namespace Tree

def empty : Tree := ⟨[(Path.home, .folder)], .sorted⟩

def get? (tree : Tree) (place : Place) : Option Entry :=
  tree.entries.lookup place

def put (tree : Tree) (place : Place) (entry : Entry) : Tree :=
  { tree with entries := (place, entry) :: tree.entries.filter (·.1 ≠ place) }

def remove (tree : Tree) (place : Place) : Tree :=
  -- every place below it goes as well
  { tree with entries := tree.entries.filter fun entry => !place.isPrefixOf entry.1 }

def namesIn (tree : Tree) (folder : Place) : List String :=
  tree.listing.arrange folder <| tree.entries.filterMap fun entry =>
    if entry.1.dropLast = folder then entry.1.getLast? else none

/-- Where a path leads: to an entry, or to a name that is free in a folder. -/
inductive Target where
  | entry (place : Place) (entry : Entry)
  | free (folder : Place) (name : String)

def nameLimit : Nat := 255

def pathLimit : Nat := 4095

/-- What a path is followed for: a link at its end is meant itself, or is read or written through. -/
inductive Purpose where
  | naming
  | reading
  | writing
  deriving DecidableEq, Repr

def Purpose.steps (purpose : Purpose) (path : String) : List String :=
  if !Path.endsInSlash path then Path.names path
  -- a slash at the end asks for the folder itself, but nobody writes there, whether it exists or not
  else if purpose = .writing then (Path.names path).dropLast ++ ["."]
  else Path.names path ++ ["."]

/-- The purpose of following a link with names behind it. -/
def Purpose.before (purpose : Purpose) (rest : List String) : Purpose :=
  if rest.isEmpty then purpose else .reading

def stepsOf (path : String) : List String := Purpose.reading.steps path

/-- Follows names from a folder. A link on the way is handed on as the folder it starts from and the
names left to follow. -/
def follow (tree : Tree) (purpose : Purpose) (onLink : Place → List String → Except Cause Target) :
    Place → List String → Except Cause Target
  | folder, [] => .ok (.entry folder .folder)
  | folder, name :: rest =>
      if name = "." then follow tree purpose onLink folder rest
      -- the top is the folder above itself
      else if name = ".." then follow tree purpose onLink folder.dropLast rest
      else if nameLimit < name.utf8ByteSize then .error .nameTooLong
      else
        let place := folder ++ [name]
        match tree.get? place with
        -- only the last name of a path may be free
        | none => if rest.isEmpty then .ok (.free folder name) else .error .missing
        | some .folder => follow tree purpose onLink place rest
        | some (.file bytes) =>
            if rest.isEmpty then .ok (.entry place (.file bytes)) else .error .notFolder
        | some (.link target) =>
            let next := purpose.before rest
            if next = .naming then .ok (.entry place (.link target))
            else onLink (if Path.isAbsolute target then [] else folder) (next.steps target ++ rest)

def followLinks (tree : Tree) (purpose : Purpose) : Nat → Place → List String → Except Cause Target
  | 0 => follow tree purpose fun _ _ => .error .tooManyLinks
  | links + 1 => follow tree purpose (followLinks tree purpose links)

def linkLimit : Nat := 40

/-- Where the names of a path lead. The empty path leads nowhere. -/
def find (tree : Tree) (purpose : Purpose) (path : String) (steps : List String) : Except Cause Target :=
  if path = "" then .error .missing
  else if pathLimit < path.utf8ByteSize then .error .nameTooLong
  else tree.followLinks purpose linkLimit (if Path.isAbsolute path then [] else Path.home) steps

def lookup (tree : Tree) (path : String) : Except Cause (Place × Entry) := do
  match ← tree.find .reading path (stepsOf path) with
  | .entry place entry => return (place, entry)
  | .free _ _ => throw .missing

end Tree

end Refactory.Workspace
