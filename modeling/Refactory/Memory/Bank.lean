import Refactory.Failure
import Refactory.Text.Search
import Refactory.Value.Arithmetic
import Refactory.Workspace.Files

/-! Learned preferences and the file that they come from.

The memory is whatever document the file holds. A new rule goes into the memory first; saving then
empties the file and fails, so that the file never holds what the memory does.
-/

set_option autoImplicit false

namespace Refactory.Memory

open Workspace

structure Bank where
  path : String
  memory : Value

def defaultPath : String := "codereaper_memory.json"

def emptyMemory : Value :=
  .dict [(.text "preferences", .list []), (.text "session_history", .list [])]

def readDocument (tree : Tree) (path : String) : Except Failure Value := do
  let text ← (tree.readText path).mapError .file
  (Json.parse text).mapError .document

namespace Bank

def load (tree : Tree) (path : String) : Except Failure Bank := do
  let memory ← if tree.has path then readDocument tree path else pure emptyMemory
  return { path, memory }

def preferencesOf : Value → Except ValueFault Value
  | .dict entries => match Value.lookup? (.text "preferences") entries with
      | some found => .ok found
      | none => .error (.missingKey (.text "preferences"))
  | .list _ => .error (.listIndexKind .text)
  | .text _ => .error (.textIndexKind .text)
  | memory => .error (.notSubscriptable memory.kind)

def preferences (bank : Bank) : Except ValueFault Value :=
  preferencesOf bank.memory

def holds (collection value : Value) : Except ValueFault Bool :=
  match collection with
  | .list items => .ok (items.any (·.equals value))
  | .dict entries => match value.key? with
      | some key => .ok (Value.lookup? key entries).isSome
      | none => .error (.unhashable value.kind)
  | .text whole => match value with
      | .text part => .ok (Text.contains whole part)
      | _ => .error (.notPartOfText value.kind)
  | _ => .error (.noMembers collection.kind)

def extended (collection value : Value) : Except ValueFault Value :=
  match collection with
  | .list items => .ok (.list (items ++ [value]))
  | _ => .error (.noMethod collection.kind "append")

def withPreferences (bank : Bank) (preferences : Value) : Bank :=
  match bank.memory with
  | .dict entries =>
      { bank with memory := .dict (Value.insert (.text "preferences") preferences entries) }
  -- never reached: only a dictionary has preferences
  | _ => bank

/-- The outcome of saving, which empties the file and then fails. -/
def save (bank : Bank) (tree : Tree) : Failure × Tree :=
  match tree.writeBytes bank.path [] with
  | .error fault => (.file fault, tree)
  | .ok after => (.unsavedMemory, after)

/-- The preferences with a rule that they do not hold yet; none if they hold it. -/
def learned? (bank : Bank) (rule : Value) : Except ValueFault (Option Value) := do
  let known ← bank.preferences
  if ← holds known rule then return none
  else return some (← extended known rule)

def learn (bank : Bank) (rule : Value) (tree : Tree) : Except Failure Unit × Bank × Tree :=
  match bank.learned? rule with
  | .error fault => (.error (.value fault), bank, tree)
  | .ok none => (.ok (), bank, tree)
  | .ok (some preferences) =>
      -- the memory holds the rule even though saving fails
      let after := bank.withPreferences preferences
      let (failure, tree) := after.save tree
      (.error failure, after, tree)

/-- The texts of a list, or the first item that is none. -/
def textsFrom : Nat → List Value → Except ValueFault (List String)
  | _, [] => .ok []
  | index, item :: rest => match item with
      | .text text => (textsFrom (index + 1) rest).map (text :: ·)
      | _ => .error (.joinedItem index item.kind)

def joined (separator : String) (collection : Value) : Except ValueFault String :=
  match collection.members with
  | .error _ => .error .notJoinable
  | .ok items => (textsFrom 0 items).map (String.intercalate separator)

def context (bank : Bank) : Except ValueFault String := do
  let known ← bank.preferences
  if known.isTrue then
    let rules ← joined "\n- " known
    return "\nCRITICAL MEMORY (Follow these learned rules):\n- " ++ rules ++ "\n"
  else return ""

end Bank

end Refactory.Memory
