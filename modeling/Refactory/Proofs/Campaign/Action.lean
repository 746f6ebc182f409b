import Refactory.Campaign.Prompt
import Refactory.Campaign.Agent
import Refactory.Campaign.Tools

/-! What the steps of a campaign do to the world.

`perform` is an action as a function of the world before it. Every step that campaigns are made of
has one equation here; a failure keeps the world in which it happened.
-/

set_option autoImplicit false

namespace Refactory.Campaign

variable {α β : Type}

def perform (action : Action α) (world : World) : Except Failure α × World :=
  action.run.run world

theorem perform_pure (found : α) (world : World) :
    perform (pure found : Action α) world = (.ok found, world) := rfl

theorem perform_throw (failure : Failure) (world : World) :
    perform (throw failure : Action α) world = (.error failure, world) := rfl

theorem perform_get (world : World) : perform (get : Action World) world = (.ok world, world) := rfl

theorem perform_set (after world : World) :
    perform (set after : Action PUnit) world = (.ok ⟨⟩, after) := rfl

theorem perform_orFail_ok (found : α) (world : World) :
    perform (orFail (.ok found)) world = (.ok found, world) := rfl

theorem perform_orFail_error (fault : Workspace.Fault) (world : World) :
    perform (orFail (.error fault) : Action α) world = (.error (.file fault), world) := rfl

theorem perform_orFault_ok (found : α) (world : World) :
    perform (orFault (.ok found)) world = (.ok found, world) := rfl

theorem perform_bind (action : Action α) (next : α → Action β) (world : World) :
    perform (action >>= next) world = match perform action world with
      | (.ok found, after) => perform (next found) after
      | (.error failure, after) => (.error failure, after) := by
  simp only [perform, ExceptT.run_bind, StateT.run_bind]
  rcases ExceptT.run action |>.run world with ⟨outcome, after⟩
  cases outcome <;> rfl

theorem perform_bind_ok {action : Action α} {world after : World} {found : α}
    (done : perform action world = (.ok found, after)) (next : α → Action β) :
    perform (action >>= next) world = perform (next found) after := by
  rw [perform_bind, done]

theorem perform_bind_error {action : Action α} {world after : World} {failure : Failure}
    (done : perform action world = (.error failure, after)) (next : α → Action β) :
    perform (action >>= next) world = (.error failure, after) := by
  rw [perform_bind, done]

theorem eq_ok_of_toOption {ε α : Type} {result : Except ε α} {value : α}
    (found : result.toOption = some value) : result = .ok value := by
  cases result with
  | ok other => exact congrArg Except.ok (Option.some.inj found)
  | error fault => cases found

/-! ## The record of events -/

namespace World

def note (world : World) (events : List Event) : World :=
  { world with events := world.events ++ events }

@[simp] theorem note_note (world : World) (first second : List Event) :
    (world.note first).note second = world.note (first ++ second) := by
  simp [note]

@[simp] theorem note_events (world : World) (events : List Event) :
    (world.note events).events = world.events ++ events := rfl

@[simp] theorem note_tree (world : World) (events : List Event) :
    (world.note events).tree = world.tree := rfl

@[simp] theorem note_script (world : World) (events : List Event) :
    (world.note events).script = world.script := rfl

end World

def Event.line (text : String) : Event := .printed (Text.uncoloured text ++ "\n")

def Event.heading (agent action : String) : List Event :=
  [.line ("\n┌── 🤖 " ++ Text.upper agent ++ " ──────────────────────────────────┐"),
    .line ("│ Action: " ++ action),
    .line "└──────────────────────────────────────────────────────────┘"]

theorem perform_record (event : Event) (world : World) :
    perform (record event) world = (.ok (), world.note [event]) := rfl

theorem perform_announce (text : String) (world : World) :
    perform (announce text) world = (.ok (), world.note [.line text]) := rfl

theorem perform_log (message : String) (world : World) :
    perform (log message) world = (.ok (), world.note [.logged message]) := rfl

theorem perform_printStep (agent action : String) (world : World) :
    perform (printStep agent action) world = (.ok (), world.note (Event.heading agent action)) := by
  simp only [printStep, perform_bind, perform_announce, World.note_note]
  rfl

/-- An area is left whatever comes of what goes on in it. -/
theorem perform_within (area : Area) (body : Action α) (world : World) :
    perform (within area body) world =
      ((perform body (world.note [.entered area])).1,
        (perform body (world.note [.entered area])).2.note [.left area]) := by
  have lifted (world : World) : perform (ExceptT.lift body.run) world =
      (.ok (perform body world).1, (perform body world).2) := rfl
  rw [within, perform_bind_ok (perform_record ..), perform_bind_ok (lifted _),
    perform_bind_ok (perform_record ..)]
  cases (perform body (world.note [.entered area])).1 <;> rfl

theorem perform_forM_announce (text : String → String) (paths : List String) (world : World) :
    perform (paths.forM fun path => announce (text path)) world =
      (.ok (), world.note (paths.map fun path => .line (text path))) := by
  induction paths generalizing world with
  | nil => simp [List.forM, perform_pure, World.note]
  | cons path rest ih =>
    change perform (announce (text path) >>= fun _ => rest.forM fun path => announce (text path))
      world = _
    rw [perform_bind_ok (perform_announce (text path) world), ih]
    simp

/-! ## Answers of the collaborators -/

def Reply.code? (reply : Reply) : Option String := reply.text?.map codeOf

namespace Script

def reply (script : Script) : Reply :=
  script.replies.headD (.failed "no scripted replies")

def afterReply (script : Script) : Script :=
  { script with replies := script.replies.tail }

def testRun (script : Script) : TestRun :=
  script.tests.headD (.failed "no scripted tests")

def afterTestRun (script : Script) : Script :=
  { script with tests := script.tests.tail }

def findings (script : Script) : List Finding :=
  script.searches.headD []

def afterSearch (script : Script) : Script :=
  { script with searches := script.searches.tail }

end Script

/-- The codes of so many replies, up to an empty one. -/
def offered : Nat → Script → List String
  | 0, _ => []
  | left + 1, script => match script.reply.code? with
      | none => []
      | some code => code :: offered left script.afterReply

namespace World

def takeReply (world : World) : World := { world with script := world.script.afterReply }

def takeTestRun (world : World) : World := { world with script := world.script.afterTestRun }

def takeSearch (world : World) : World := { world with script := world.script.afterSearch }

def save (world : World) (path text : String) : World :=
  { world.note [.saved path text] with tree := (world.tree.saveText path text).1 }

@[simp] theorem save_events (world : World) (path text : String) :
    (world.save path text).events = world.events ++ [.saved path text] := rfl

@[simp] theorem save_tree (world : World) (path text : String) :
    (world.save path text).tree = (world.tree.saveText path text).1 := by
  simp only [save]

@[simp] theorem save_script (world : World) (path text : String) :
    (world.save path text).script = world.script := by
  simp only [save, note_script]

end World

theorem perform_nextReply (world : World) :
    perform nextReply world = (.ok world.script.reply, world.takeReply) := by
  rcases world with ⟨tree, baseline, script, events, models⟩
  rcases script with ⟨replies⟩
  cases replies <;> rfl

theorem perform_nextTestRun (world : World) :
    perform nextTestRun world = (.ok world.script.testRun, world.takeTestRun) := by
  rcases world with ⟨tree, baseline, script, events, models⟩
  rcases script with ⟨replies, tests⟩
  cases tests <;> rfl

theorem perform_nextSearch (world : World) :
    perform nextSearch world = (.ok world.script.findings, world.takeSearch) := by
  rcases world with ⟨tree, baseline, script, events, models⟩
  rcases script with ⟨replies, tests, searches⟩
  cases searches <;> rfl

def emptyReply : Failure := .value (.noMethod .none "replace")

def World.asked (world : World) (agent : Agent) (message : String) : World :=
  (world.note [.sent agent.model message]).takeReply

def Reply.outcome (reply : Reply) : Except Failure String :=
  match reply.code? with
  | some code => .ok code
  | none => .error emptyReply

theorem perform_ask (agent : Agent) (message : String) (world : World) :
    perform (agent.ask message) world = (world.script.reply.outcome, world.asked agent message) := by
  simp only [Agent.ask, Agent.send, bind_assoc, perform_bind, perform_record, perform_nextReply,
    World.note_script, pure_bind, Reply.outcome, Reply.code?]
  cases world.script.reply.text? <;> rfl

def World.tested (world : World) (path : String) : World :=
  (world.note [.testsRun (testCommand path)]).takeTestRun

@[simp] theorem World.asked_tree (world : World) (agent : Agent) (message : String) :
    (world.asked agent message).tree = world.tree := rfl

@[simp] theorem World.asked_script (world : World) (agent : Agent) (message : String) :
    (world.asked agent message).script = world.script.afterReply := rfl

@[simp] theorem World.asked_events (world : World) (agent : Agent) (message : String) :
    (world.asked agent message).events = world.events ++ [.sent agent.model message] := rfl

@[simp] theorem World.tested_tree (world : World) (path : String) :
    (world.tested path).tree = world.tree := rfl

@[simp] theorem World.tested_script (world : World) (path : String) :
    (world.tested path).script = world.script.afterTestRun := rfl

@[simp] theorem World.tested_events (world : World) (path : String) :
    (world.tested path).events = world.events ++ [.testsRun (testCommand path)] := rfl

theorem perform_runTests (path : String) (world : World) :
    perform (runTests path) world = (.ok world.script.testRun.report, world.tested path) := by
  simp only [runTests, perform_bind, perform_record, perform_nextTestRun, perform_pure,
    World.note_script]
  rfl

def World.searched (world : World) (query : String) : World :=
  (world.note [.searched query]).takeSearch

theorem perform_search (query : String) (world : World) :
    perform (search query) world =
      (.ok (reportOfSearch world.script.findings), world.searched query) := by
  simp only [search, perform_bind, perform_record, perform_nextSearch, perform_pure, World.note_script]
  rfl

def savingReport (path : String) : Option Workspace.Fault → String
  | none => "Successfully wrote to " ++ path
  | some fault => "Error writing file: " ++ fault.message

theorem perform_saveFile (path text : String) (world : World) :
    perform (saveFile path text) world =
      (.ok (savingReport path (world.tree.saveText path text).2), world.save path text) := by
  simp only [saveFile, World.save, perform_bind, perform_record, perform_get, perform_set,
    World.note_tree]
  rcases world.tree.saveText path text with ⟨tree, fault⟩
  cases fault <;> rfl

theorem perform_fileText (path : String) (world : World) :
    perform (fileText path) world = (.ok (readOrExplain world.tree path), world) := rfl

theorem perform_measureComplexity (path : String) (world : World) :
    perform (measureComplexity path) world =
      (.ok (Analysis.describeComplexity world.tree path), world) := rfl

def World.nextAgent (world : World) (profile : Profile) : Agent := ⟨profile, world.models⟩

def World.enlist (world : World) (profile : Profile) : World :=
  { world.note [.modelMade defaultModel profile.instruction] with models := world.models + 1 }

theorem perform_make (profile : Profile) (world : World) :
    perform profile.make world = (.ok (world.nextAgent profile), world.enlist profile) := rfl

-- From here on an action is run by the equations above. Unfolding `perform` would let `rfl` and
-- unification open the worlds themselves.
attribute [irreducible] perform

@[simp] theorem World.enlist_events (world : World) (profile : Profile) :
    (world.enlist profile).events =
      world.events ++ [.modelMade defaultModel profile.instruction] := rfl

@[simp] theorem World.enlist_tree (world : World) (profile : Profile) :
    (world.enlist profile).tree = world.tree := rfl

@[simp] theorem World.enlist_script (world : World) (profile : Profile) :
    (world.enlist profile).script = world.script := rfl

/-! ## Texts handed over to be saved -/

def Event.textFor (path : String) : Event → Option String
  | .saved place text => if place = path then some text else none
  | _ => none

def textsFor (path : String) (events : List Event) : List String :=
  events.filterMap (Event.textFor path)

theorem mem_textsFor {path text : String} {events : List Event} :
    text ∈ textsFor path events ↔ Event.saved path text ∈ events := by
  simp only [textsFor, List.mem_filterMap]
  -- of all events only `saved` has a text, and only for its own path
  constructor
  · rintro ⟨event, member, found⟩
    cases event <;> simp [Event.textFor] at found
    obtain ⟨rfl, rfl⟩ := found
    exact member
  · intro member
    exact ⟨_, member, by simp [Event.textFor]⟩

@[simp] theorem textsFor_append (path : String) (first second : List Event) :
    textsFor path (first ++ second) = textsFor path first ++ textsFor path second :=
  List.filterMap_append

@[simp] theorem textsFor_nil (path : String) : textsFor path [] = [] := rfl

@[simp] theorem textsFor_cons (path : String) (event : Event) (rest : List Event) :
    textsFor path (event :: rest) = (event.textFor path).toList ++ textsFor path rest := by
  cases found : event.textFor path <;> simp [textsFor, found]

@[simp] theorem Event.textFor_saved (path text : String) :
    (Event.saved path text).textFor path = some text := by
  simp [textFor]

theorem Event.textFor_saved_ne {path place : String} (other : place ≠ path) (text : String) :
    (Event.saved place text).textFor path = none := by
  simp [textFor, other]

@[simp] theorem Event.textFor_line (path text : String) : (Event.line text).textFor path = none := rfl

@[simp] theorem Event.textFor_logged (path message : String) :
    (Event.logged message).textFor path = none := rfl

@[simp] theorem Event.textFor_sent (path : String) (model : Nat) (message : String) :
    (Event.sent model message).textFor path = none := rfl

@[simp] theorem Event.textFor_testsRun (path : String) (command : List String) :
    (Event.testsRun command).textFor path = none := rfl

@[simp] theorem Event.textFor_modelMade (path name instruction : String) :
    (Event.modelMade name instruction).textFor path = none := rfl

@[simp] theorem textsFor_heading (path agent action : String) :
    textsFor path (Event.heading agent action) = [] := rfl

@[simp] theorem textsFor_lines {path : String} (text : String → String) (paths : List String) :
    textsFor path (paths.map fun place => Event.line (text place)) = [] := by
  induction paths with
  | nil => rfl
  | cons place rest ih => simp [ih]

/-- Between two worlds no file was changed and no text handed over. -/
structure World.Unsaved (before after : World) : Prop where
  tree : after.tree = before.tree
  texts (path : String) : textsFor path after.events = textsFor path before.events

namespace World.Unsaved

theorem trans {first second third : World} (left : Unsaved first second) (right : Unsaved second third) :
    Unsaved first third :=
  ⟨right.tree.trans left.tree, fun path => (right.texts path).trans (left.texts path)⟩

theorem note {world : World} {events : List Event} (silent : ∀ path, textsFor path events = []) :
    Unsaved world (world.note events) :=
  ⟨rfl, fun path => by simp [silent path]⟩

theorem asked (world : World) (agent : Agent) (message : String) :
    Unsaved world (world.asked agent message) :=
  ⟨rfl, fun path => by simp⟩

end World.Unsaved

/-! ## Tests -/

def testsAsked (agent : Agent) (message : String) (world : World) : World :=
  (world.note (Event.heading "Executioner" "Generating Regression Tests...")).asked agent message

def testsWritten (agent : Agent) (path message tests : String) (world : World) : World :=
  ((testsAsked agent message world).save path tests).note
    [.line ("✔ Tests saved to " ++ Workspace.Path.fileName path)]

theorem textsFor_testsAsked (path : String) (agent : Agent) (message : String) (world : World) :
    textsFor path (testsAsked agent message world).events = textsFor path world.events := by
  simp [testsAsked]

theorem textsFor_testsWritten {path place : String} (apart : place ≠ path) (agent : Agent)
    (message tests : String) (world : World) :
    textsFor path (testsWritten agent place message tests world).events =
      textsFor path world.events := by
  simp [testsWritten, testsAsked, Event.textFor_saved_ne apart]

theorem testsWritten_script (agent : Agent) (path message tests : String) (world : World) :
    (testsWritten agent path message tests world).script = world.script.afterReply := by
  simp [testsWritten, testsAsked]

def verdictLines (target report : String) : List Event :=
  if Text.contains report "passed" then
    [.line "🎉 SUCCESS: Refactor verified clean.", .logged ("SUCCESS: " ++ target)]
  else [.line "⚠ WARNING: Tests failed. Manual review required.", .logged ("FAILURE: " ++ target)]

theorem perform_verdict (target report : String) (world : World) :
    perform (do
      if Text.contains report "passed" then
        announce "🎉 SUCCESS: Refactor verified clean."
        log ("SUCCESS: " ++ target)
      else
        announce "⚠ WARNING: Tests failed. Manual review required."
        log ("FAILURE: " ++ target)) world = (.ok (), world.note (verdictLines target report)) := by
  unfold verdictLines
  by_cases verdict : Text.contains report "passed"
  · simp only [verdict, if_true, perform_bind, perform_announce, perform_log, World.note_note,
      List.singleton_append]
  · simp only [verdict, Bool.false_eq_true, if_false, perform_bind, perform_announce, perform_log,
      World.note_note, List.singleton_append]

def reported (target tests : String) (world : World) : World :=
  ((world.note (Event.heading "Executioner" "Running Validation...")).tested tests).note
    (verdictLines target world.script.testRun.report)

theorem textsFor_reported (path target tests : String) (world : World) :
    textsFor path (reported target tests world).events = textsFor path world.events := by
  unfold reported verdictLines
  split <;> simp

theorem reported_script (target tests : String) (world : World) :
    (reported target tests world).script = world.script.afterTestRun := rfl

def committed (line target code : String) (world : World) : World :=
  (world.save target code).note [.line line]

theorem textsFor_committed (line target code : String) (world : World) :
    textsFor target (committed line target code world).events =
      textsFor target world.events ++ [code] := by
  simp [committed]

theorem committed_script (line target code : String) (world : World) :
    (committed line target code world).script = world.script := by
  simp [committed]

def judged (line : String) (examiner : Agent) (target code message tests : String) (world : World) :
    World :=
  reported target (testPath target)
    (testsWritten examiner (testPath target) message tests (committed line target code world))

theorem textsFor_judged {target : String} (apart : testPath target ≠ target) (line : String)
    (examiner : Agent) (code message tests : String) (world : World) :
    textsFor target (judged line examiner target code message tests world).events =
      textsFor target world.events ++ [code] := by
  rw [judged, textsFor_reported, textsFor_testsWritten apart, textsFor_committed]

theorem judged_script (line : String) (examiner : Agent) (target code message tests : String)
    (world : World) : (judged line examiner target code message tests world).script =
      world.script.afterReply.afterTestRun := by
  rw [judged, reported_script, testsWritten_script, committed_script]

end Refactory.Campaign
