import Refactory.Campaign.Reply
import Refactory.Campaign.World

/-! Agents: language models with a name and a role. -/

set_option autoImplicit false

namespace Refactory.Campaign

structure Profile where
  name : String
  role : String
  deriving DecidableEq, Repr

def inspector : Profile where
  name := "The Inquisitor"
  role := "You analyze Python files. You specifically look for 'CRITICAL' complexity scores. " ++
    "You decide which file needs immediate refactoring."

def refactorer : Profile where
  name := "The Surgeon"
  role := "You are a Senior Python Architect. You receive messy code and rewrite it to be Clean, " ++
    "modular, and typed. You NEVER reduce functionality, only complexity."

def tester : Profile where
  name := "The Executioner"
  role := "You are a QA Engineer. You receive code and write robust 'pytest' unit tests for it. " ++
    "You must cover edge cases."

def Profile.instruction (profile : Profile) : String :=
  "You are " ++ profile.name ++ ". Role: " ++ profile.role ++ ". You are part of the CodeReaper system."

def defaultModel : String := "gemini-2.5-pro"

structure Agent where
  profile : Profile
  /-- The number of its model, counted from zero in the order of making. -/
  model : Nat
  deriving DecidableEq, Repr

def Profile.makeOn (profile : Profile) (model : String) : Action Agent := do
  let number := (← get).models
  modify fun world => { world with models := number + 1 }
  record (.modelMade model profile.instruction)
  return { profile, model := number }

def Profile.make (profile : Profile) : Action Agent :=
  profile.makeOn defaultModel

def nextReply : Action Reply := do
  let world ← get
  match world.script.replies with
  | [] => return .failed "no scripted replies"
  | reply :: rest =>
      set { world with script := { world.script with replies := rest } }
      return reply

/-- A failure of the model comes back as a text; a reply may be empty. -/
def Reply.text? : Reply → Option String
  | .text found => some found
  | .empty => none
  | .failed message => some ("Agent Error: " ++ message)

def Agent.send (agent : Agent) (message : String) : Action (Option String) := do
  record (.sent agent.model message)
  return (← nextReply).text?

/-- Sends a message and gives the code in the reply; an empty reply has none to give. -/
def Agent.ask (agent : Agent) (message : String) : Action String := do
  match ← agent.send message with
  | some reply => return codeOf reply
  | none => throw (.value (.noMethod .none "replace"))

end Refactory.Campaign
