import Refactory.Campaign.Guarded
import Refactory.Campaign.Single

/-! The command line: a campaign with nobody to answer it, and what it prints. -/

open Refactory Refactory.Campaign

/-- The campaign that the arguments ask for: guarded, unless a single pass is asked for. -/
def campaignFor (arguments : List String) : Action Unit :=
  if arguments.contains "single" then Single.run else Guarded.run

def main (arguments : List String) : IO UInt32 := do
  let (outcome, world) := (campaignFor arguments).run.run (World.start Workspace.Tree.empty Script.empty)
  for event in transcript world.events do
    if let .printed text := event then IO.print text
  match outcome with
  | .ok _ => return 0
  | .error failure =>
      IO.eprintln failure.message
      return 1
