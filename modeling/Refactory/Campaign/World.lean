import Refactory.Campaign.Screen
import Refactory.Failure
import Refactory.Text.Controls
import Refactory.Workspace.Files

/-! What a campaign acts on: the files, the collaborators and a record of all that happens.

The collaborators answer from a script. An action either comes to an end or fails; in both cases the
world after it holds everything that happened on the way.
-/

set_option autoImplicit false

namespace Refactory.Campaign

open Workspace

inductive Reply where
  | text (text : String)
  | empty
  | failed (message : String)
  deriving DecidableEq, Repr

inductive TestRun where
  | finished (code : Int) (output errors : String)
  | failed (message : String)
  deriving DecidableEq, Repr

inductive Finding where
  | page (title description address : String)
  | failed (message : String)
  deriving DecidableEq, Repr

structure Script where
  replies : List Reply
  tests : List TestRun
  searches : List (List Finding)
  clone : List (String × Entry)
  cloneFailure : Option String
  removalDenied : Bool
  /-- The entry chosen from a list, and the mode chosen; without a choice the first is taken. -/
  choice : Option String
  mode : Option String
  /-- Is every button pressed? -/
  pressed : Bool

def Script.empty : Script where
  replies := []
  tests := []
  searches := []
  clone := []
  cloneFailure := none
  removalDenied := false
  choice := none
  mode := none
  pressed := false

inductive Event where
  | printed (text : String)
  | logged (message : String)
  | slept (seconds : Value)
  | configured (key : Option String)
  | modelMade (name instruction : String)
  | sent (model : Nat) (message : String)
  | searched (query : String)
  | testsRun (command : List String)
  | removed (folder : String)
  | cloned (address folder : String)
  | repositoryOpened (folder : String)
  /-- A text is handed over to be saved, whether or not that succeeds. -/
  | saved (path text : String)
  | shown (area : Area) (widget : Widget) (arguments : List Value) (settings : List Setting)
  | entered (area : Area)
  | left (area : Area)

structure World where
  tree : Tree
  /-- The tree that changes are told against. -/
  baseline : Tree
  script : Script
  /-- Everything that happened, in order. -/
  events : List Event
  /-- How many models have been made. -/
  models : Nat

def World.start (tree : Tree) (script : Script) : World :=
  { tree, baseline := tree, script, events := [], models := 0 }

abbrev Action := ExceptT Failure (StateM World)

def record (event : Event) : Action Unit :=
  modify fun world => { world with events := world.events ++ [event] }

def orFail {α : Type} (outcome : Except Fault α) : Action α :=
  match outcome with
  | .ok found => return found
  | .error fault => throw (.file fault)

def orFault {α : Type} (outcome : Except ValueFault α) : Action α :=
  match outcome with
  | .ok found => return found
  | .error fault => throw (.value fault)

def say (line : String) : Action Unit :=
  record (.printed (line ++ "\n"))

def announce (line : String) : Action Unit :=
  say (Text.uncoloured line)

def log (message : String) : Action Unit :=
  record (.logged message)

/-- Goes on inside an area, which is left in any case. -/
def within {α : Type} (area : Area) (body : Action α) : Action α := do
  record (.entered area)
  -- a failure inside is held back until the area is left
  let outcome ← ExceptT.lift body.run
  record (.left area)
  match outcome with
  | .ok found => return found
  | .error failure => throw failure

def showWith (area : Area) (widget : Widget) (arguments : List Value) (settings : List Setting) :
    Action Unit :=
  record (.shown area widget arguments settings)

def showText (area : Area) (widget : Widget) (text : String) : Action Unit :=
  showWith area widget [.text text] []

/-- The events with runs of printed texts put together, and without those that only concern files. -/
def transcript : List Event → List Event
  | [] => []
  | .saved _ _ :: rest => transcript rest
  | .printed text :: rest => match transcript rest with
      | .printed more :: later => .printed (text ++ more) :: later
      | later => .printed text :: later
  | event :: rest => event :: transcript rest

end Refactory.Campaign
