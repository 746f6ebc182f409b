import Refactory.Json.Printer
import Refactory.Memory.Bank

/-! The point at which a session stopped, kept in a file. -/

set_option autoImplicit false

namespace Refactory.Memory.Checkpoint

open Workspace

def path : String := "checkpoint.json"

def record (time stage data : Value) : Value :=
  .dict [(.text "timestamp", time), (.text "stage", stage), (.text "data", data)]

def save (tree : Tree) (time stage data : Value) : Except Failure Tree :=
  (tree.writeText path (Json.render .line (record time stage data))).mapError .file

def load (tree : Tree) : Except Failure Value :=
  if tree.has path then readDocument tree path else .ok .none

end Refactory.Memory.Checkpoint
