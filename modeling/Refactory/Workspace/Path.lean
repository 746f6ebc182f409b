import Refactory.Text.Pieces
import Refactory.Text.Search

/-! Paths as texts, and their parts.

Names are divided by slashes. What a path leads to is a matter of the tree it is looked up in; the
functions here only cut and join texts.
-/

set_option autoImplicit false

namespace Refactory.Workspace.Path

/-- The names of a path; slashes in a row count as one. -/
def names (path : String) : List String :=
  (Text.pieces '/' path).filter (· ≠ "")

def isAbsolute (path : String) : Bool :=
  Text.startsWith path "/"

def endsInSlash (path : String) : Bool :=
  Text.endsWith path "/"

/-- Removes the slashes at the end, unless there is nothing else. -/
def withoutFinalSlashes (path : String) : String :=
  let kept := path.toList.reverse.dropWhile (· = '/')
  if kept.isEmpty then path else String.ofList kept.reverse

/-- A path cut after its last slash: the part before it, without slashes at its end, and the rest. -/
def split (path : String) : String × String :=
  let reversed := path.toList.reverse
  let tail := reversed.takeWhile (· ≠ '/')
  let head := reversed.dropWhile (· ≠ '/')
  (withoutFinalSlashes (String.ofList head.reverse), String.ofList tail.reverse)

def parent (path : String) : String :=
  (split path).1

def fileName (path : String) : String :=
  (split path).2

def join (folder name : String) : String :=
  if folder = "" || endsInSlash folder then folder ++ name else folder ++ "/" ++ name

def home : List String := ["ROOT"]

def ofNames (names : List String) : String :=
  "/" ++ String.intercalate "/" names

/-- Takes one more name: the name of the parent folder takes the last one away. -/
def step (found : List String) (name : String) : List String :=
  if name = "." then found
  else if name = ".." then found.dropLast
  else found ++ [name]

def absolute (path : String) : String :=
  ofNames ((names path).foldl step (if isAbsolute path then [] else home))

end Refactory.Workspace.Path
