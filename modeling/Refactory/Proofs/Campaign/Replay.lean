import Refactory.Proofs.Campaign.Saved

/-! The files after a run, from the record of it.

Once the copy has been made, files change only where a text is handed over to be saved, and the record
holds every such text. So the files after a run are those of the copy with the texts saved again.
-/

set_option autoImplicit false

namespace Refactory.Campaign

open Workspace Analysis

variable {α β : Type}

/-! ## Replaying a record -/

def Event.save? : Event → Option (String × String)
  | .saved path text => some (path, text)
  | _ => none

def savesOf (events : List Event) : List (String × String) := events.filterMap Event.save?

def replay (tree : Tree) (events : List Event) : Tree :=
  (savesOf events).foldl (fun tree save => (tree.saveText save.1 save.2).1) tree

@[simp] theorem savesOf_nil : savesOf [] = [] := rfl

@[simp] theorem savesOf_append (first second : List Event) :
    savesOf (first ++ second) = savesOf first ++ savesOf second :=
  List.filterMap_append

@[simp] theorem savesOf_saved (path text : String) (rest : List Event) :
    savesOf (.saved path text :: rest) = (path, text) :: savesOf rest := rfl

@[simp] theorem savesOf_line (text : String) (rest : List Event) :
    savesOf (.line text :: rest) = savesOf rest := rfl

@[simp] theorem savesOf_logged (message : String) (rest : List Event) :
    savesOf (.logged message :: rest) = savesOf rest := rfl

@[simp] theorem savesOf_lines (text : String → String) (paths : List String) :
    savesOf (paths.map fun path => Event.line (text path)) = [] := by
  induction paths with
  | nil => rfl
  | cons path rest ih => simp [ih]

theorem mem_savesOf {path text : String} {events : List Event} :
    (path, text) ∈ savesOf events ↔ .saved path text ∈ events := by
  simp only [savesOf, List.mem_filterMap]
  constructor
  · rintro ⟨event, member, found⟩
    cases event <;> simp [Event.save?] at found
    obtain ⟨rfl, rfl⟩ := found
    exact member
  · intro member
    exact ⟨_, member, rfl⟩

def Event.isTestRun : Event → Bool
  | .testsRun _ => true
  | _ => false

def testRuns (events : List Event) : Nat := events.countP Event.isTestRun

@[simp] theorem testRuns_append (first second : List Event) :
    testRuns (first ++ second) = testRuns first + testRuns second :=
  List.countP_append

theorem replay_append (tree : Tree) (first second : List Event) :
    replay tree (first ++ second) = replay (replay tree first) second := by
  simp only [replay, savesOf_append, List.foldl_append]

theorem replay_of_no_saves {events : List Event} (silent : savesOf events = []) (tree : Tree) :
    replay tree events = tree := by
  rw [replay, silent, List.foldl_nil]

/-! ## From world to world -/

/-- These events lead from one world to another, and the files changed by them alone. -/
structure World.Leads (before : World) (events : List Event) (after : World) : Prop where
  record : after.events = before.events ++ events
  tree : after.tree = replay before.tree events

namespace World.Leads

theorem refl (world : World) : Leads world [] world := ⟨(List.append_nil _).symm, rfl⟩

theorem trans {first second third : World} {earlier later : List Event}
    (left : Leads first earlier second) (right : Leads second later third) :
    Leads first (earlier ++ later) third :=
  ⟨by rw [right.record, left.record, List.append_assoc], by rw [right.tree, left.tree, replay_append]⟩

theorem note (world : World) {events : List Event} (silent : savesOf events = []) :
    Leads world events (world.note events) :=
  ⟨rfl, (replay_of_no_saves silent world.tree).symm⟩

theorem asked (world : World) (agent : Agent) (message : String) :
    Leads world [.sent agent.model message] (world.asked agent message) :=
  ⟨world.asked_events agent message, rfl⟩

theorem tested (world : World) (path : String) :
    Leads world [.testsRun (testCommand path)] (world.tested path) :=
  ⟨world.tested_events path, rfl⟩

theorem save (world : World) (path text : String) :
    Leads world [.saved path text] (world.save path text) :=
  ⟨world.save_events path text, by
    simp only [World.save, replay, savesOf_saved, savesOf_nil, List.foldl_cons, List.foldl_nil]⟩

theorem enlist (world : World) (profile : Profile) :
    Leads world [.modelMade defaultModel profile.instruction] (world.enlist profile) :=
  ⟨world.enlist_events profile, rfl⟩

end World.Leads

/-- Whatever comes of the action, its record tells how the files changed, and texts were handed over
for certain paths only. -/
structure Traced (paths : List String) (action : Action α) : Prop where
  run (world : World) : ∃ events, World.Leads world events (perform action world).2 ∧
    ∀ save ∈ savesOf events, save.1 ∈ paths

namespace Traced

variable {paths : List String}

theorem pure (found : α) : Traced paths (Pure.pure found : Action α) := by
  constructor
  intro world
  rw [perform_pure]
  exact ⟨[], .refl world, nofun⟩

theorem bind {action : Action α} {next : α → Action β} (first : Traced paths action)
    (rest : ∀ found, Traced paths (next found)) : Traced paths (action >>= next) := by
  constructor
  intro world
  obtain ⟨earlier, begun, within⟩ := first.run world
  rw [perform_bind]
  revert begun
  rcases perform action world with ⟨outcome, between⟩
  intro begun
  cases outcome with
  | error failure => exact ⟨earlier, begun, within⟩
  | ok found =>
    obtain ⟨later, ended, still⟩ := (rest found).run between
    refine ⟨earlier ++ later, begun.trans ended, fun save member => ?_⟩
    rw [savesOf_append, List.mem_append] at member
    exact member.elim (within save) (still save)

theorem announce (text : String) : Traced paths (Campaign.announce text) := by
  constructor
  intro world
  rw [perform_announce]
  exact ⟨_, .note world rfl, nofun⟩

theorem log (message : String) : Traced paths (Campaign.log message) := by
  constructor
  intro world
  rw [perform_log]
  exact ⟨_, .note world rfl, nofun⟩

theorem printStep (agent action : String) : Traced paths (Campaign.printStep agent action) := by
  constructor
  intro world
  rw [perform_printStep]
  exact ⟨_, .note world rfl, nofun⟩

theorem ask (agent : Agent) (message : String) : Traced paths (agent.ask message) := by
  constructor
  intro world
  rw [perform_ask]
  exact ⟨_, .asked world agent message, nofun⟩

theorem runTests (path : String) : Traced paths (Campaign.runTests path) := by
  constructor
  intro world
  rw [perform_runTests]
  exact ⟨_, .tested world path, nofun⟩

theorem saveFile {path : String} (allowed : path ∈ paths) (text : String) :
    Traced paths (Campaign.saveFile path text) := by
  constructor
  intro world
  rw [perform_saveFile]
  refine ⟨_, .save world path text, fun save member => ?_⟩
  obtain rfl := List.mem_singleton.mp member
  exact allowed

theorem fileText (path : String) : Traced paths (Campaign.fileText path) := by
  constructor
  intro world
  rw [perform_fileText]
  exact ⟨[], .refl world, nofun⟩

theorem make (profile : Profile) : Traced paths profile.make := by
  constructor
  intro world
  rw [perform_make]
  exact ⟨_, .enlist world profile, nofun⟩

theorem tell (shown : Bool) (praise warning success failure : String) :
    Traced paths (if shown then do Campaign.announce praise; Campaign.log success
      else do Campaign.announce warning; Campaign.log failure) := by
  cases shown with
  | true => exact .bind (.announce praise) fun _ => .log success
  | false => exact .bind (.announce warning) fun _ => .log failure

end Traced

/-! ## The campaigns -/

def pathsFor (target : String) : List String := [target, testPath target]

theorem target_mem_pathsFor (target : String) : target ∈ pathsFor target := List.mem_cons_self

theorem testPath_mem_pathsFor (target : String) : testPath target ∈ pathsFor target :=
  List.mem_cons_of_mem _ List.mem_cons_self

namespace Guarded

variable {paths : List String}

theorem refactor_traced (agent : Agent) (old first : String) (left : Nat) (last : Option Rejection) :
    Traced paths (refactor agent old first left last) := by
  induction left generalizing last with
  | zero => exact .pure none
  | succ left ih =>
    refine .bind (.announce _) fun _ => .bind (.ask agent _) fun code => ?_
    cases judge old code with
    | none => exact .pure (some code)
    | some rejection => exact .bind (.announce _) fun _ => ih (some rejection)

theorem writeTests_traced (agent : Agent) {path : String} (allowed : path ∈ paths) (code : String) :
    Traced paths (writeTests agent path code) :=
  .bind (.printStep ..) fun _ => .bind (.ask agent _) fun tests =>
    .bind (.saveFile allowed tests) fun _ => .announce _

theorem heal_traced (agent : Agent) {target : String} (allowed : target ∈ paths) (tests : String) (left : Nat)
    (code : String) : Traced paths (heal agent target tests left code) := by
  induction left generalizing code with
  | zero => exact .pure false
  | succ left ih =>
    refine .bind (.printStep ..) fun _ => .bind (.runTests tests) fun report => ?_
    split
    · exact .bind (.announce _) fun _ => .bind (.log _) fun _ => .pure true
    · refine .bind (.announce _) fun _ => .bind (.ask agent _) fun patch => ?_
      split
      · exact .bind (.saveFile allowed patch) fun _ => .bind (.announce _) fun _ => ih patch
      · exact ih patch

theorem commit_traced (coder examiner : Agent) (target code : String) :
    Traced (pathsFor target) (commit coder examiner target code) := by
  have writing := writeTests_traced examiner (testPath_mem_pathsFor target) code
  have ending : Traced (pathsFor target) (do
      writeTests examiner (testPath target) code
      if !(← heal coder target (testPath target) repairLimit code) then
        announce "🛑 Manual Review Required.") := by
    refine .bind writing fun _ => .bind (heal_traced coder (target_mem_pathsFor target) ..) fun passed => ?_
    cases passed with
    | true => exact .pure ()
    | false => exact .announce _
  refine .bind (.saveFile (target_mem_pathsFor target) code) fun _ => .bind (.announce _) fun _ =>
    .bind writing fun _ => .bind (.printStep ..) fun _ =>
    .bind (.runTests _) fun report => ?_
  split
  · exact .bind (.announce _) fun _ => .bind (.log _) fun _ => ending
  · exact .bind (.announce _) fun _ => .bind (.log _) fun _ => ending

theorem treat_traced (graph : ImportGraph) (target : String) :
    Traced (pathsFor target) (treat graph target) := by
  refine .bind (.announce _) fun _ => .bind (.announce _) fun _ => .bind (.make _) fun coder =>
    .bind (.make _) fun examiner => .bind (.fileText target) fun old =>
    .bind (refactor_traced ..) fun found => ?_
  cases found with
  | none => exact .announce _
  | some code => exact commit_traced coder examiner target code

theorem taken_traced (tree : Tree) : Traced ((target? tree).elim [] pathsFor) (match target? tree with
    | none => announce "No targets found. Try increasing scan_limit."
    | some target => treat (ImportGraph.ofFolder tree repositoryFolder) target) := by
  cases target? tree with
  | none => exact .announce _
  | some target => exact treat_traced _ target

end Guarded

namespace Single

theorem commit_traced (examiner : Agent) (target code : String) :
    Traced (pathsFor target) (commit examiner target code) :=
  .bind (.saveFile (target_mem_pathsFor target) code) fun _ => .bind (.announce _) fun _ =>
    .bind (.printStep ..) fun _ =>
    .bind (.ask examiner _) fun tests => .bind (.saveFile (testPath_mem_pathsFor target) tests) fun _ =>
    .bind (.announce _) fun _ => .bind (.printStep ..) fun _ => .bind (.runTests _) fun _ => .tell ..

theorem treat_traced (graph : ImportGraph) (target : String) :
    Traced (pathsFor target) (treat graph target) := by
  refine .bind (.announce _) fun _ => .bind (.announce _) fun _ => .bind (.make _) fun coder =>
    .bind (.make _) fun examiner => .bind (.fileText target) fun old => .bind (.printStep ..) fun _ =>
    .bind (.ask coder _) fun code => ?_
  split
  · exact commit_traced examiner target code
  · exact .announce _

theorem taken_traced (tree : Tree) : Traced ((target? tree).elim [] pathsFor) (match target? tree with
    | none => announce "No high-complexity files found in the scan limit. Try increasing scan_limit."
    | some target => treat (ImportGraph.ofFolder tree repositoryFolder) target) := by
  cases target? tree with
  | none => exact .announce _
  | some target => exact treat_traced _ target

end Single

/-- What a campaign does after its copy is told by its record, and it saves only the target and its tests. -/
theorem Protocol.campaign_traced (protocol : Protocol) {world copy : World}
    (copied : Copied protocol.opening world copy) :
    ∃ events, World.Leads copy events (perform protocol.campaign world).2 ∧
      ∀ save ∈ savesOf events, save.1 ∈ (protocol.target? copy.tree).elim [] pathsFor := by
  cases protocol with
  | guarded =>
    have silent : savesOf (Guarded.surveyLines copy.tree) = [] := by simp [Guarded.surveyLines]
    obtain ⟨events, gone, within⟩ :=
      (Guarded.taken_traced copy.tree).run (copy.note (Guarded.surveyLines copy.tree))
    rw [campaign, Guarded.perform_campaign copied]
    refine ⟨_, (World.Leads.note copy silent).trans gone, ?_⟩
    rwa [savesOf_append, silent]
  | single =>
    have silent : savesOf (Single.surveyLines copy.tree) = [] := by simp [Single.surveyLines]
    obtain ⟨events, gone, within⟩ :=
      (Single.taken_traced copy.tree).run (copy.note (Single.surveyLines copy.tree))
    rw [campaign, Single.perform_campaign copied]
    refine ⟨_, (World.Leads.note copy silent).trans gone, ?_⟩
    rwa [savesOf_append, silent]

theorem Protocol.campaign_leads (protocol : Protocol) {world copy : World}
    (copied : Copied protocol.opening world copy) :
    ∃ events, World.Leads copy events (perform protocol.campaign world).2 := by
  obtain ⟨events, leads, _⟩ := protocol.campaign_traced copied
  exact ⟨events, leads⟩

end Refactory.Campaign
