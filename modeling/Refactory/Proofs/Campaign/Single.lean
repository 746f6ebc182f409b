import Refactory.Proofs.Campaign.Copy
import Refactory.Proofs.Campaign.Target

/-! The text that the single-pass campaign hands over for its target: the code of the one reply that it
asks for, if that is a program.
-/

set_option autoImplicit false

namespace Refactory.Campaign.Single

open Workspace Analysis
open World (Unsaved)

def opening : String := "🚀 INITIALIZING RESEARCH PROTOCOL: GRAPH-AWARE REFACTORING"

/-! ## Testing the code -/

def commitLine : String := "✔ Code applied to disk."

section Commit

variable {examiner : Agent} {target code : String} {world : World}

theorem perform_commit_empty (empty : world.script.reply.code? = none) :
    perform (commit examiner target code) world =
      (.error emptyReply, testsAsked examiner (testPrompt code) (committed commitLine target code world)) := by
  simp only [commit, perform_bind, perform_saveFile, perform_announce, perform_printStep, perform_ask,
    World.note_script, World.save_script, Reply.outcome, empty]
  rfl

theorem perform_commit_tests {tests : String} (given : world.script.reply.code? = some tests) :
    perform (commit examiner target code) world =
      (.ok (), judged commitLine examiner target code (testPrompt code) tests world) := by
  have answered : perform (examiner.ask (testPrompt code))
      ((committed commitLine target code world).note
        (Event.heading "Executioner" "Generating Regression Tests...")) =
      (.ok tests, testsAsked examiner (testPrompt code) (committed commitLine target code world)) := by
    simp only [perform_ask, World.note_script, committed_script, Reply.outcome, given]
    rfl
  unfold commit
  rw [perform_bind_ok (perform_saveFile ..), perform_bind_ok (perform_announce ..),
    perform_bind_ok (perform_printStep ..)]
  refine (perform_bind_ok answered _).trans ?_
  rw [perform_bind_ok (perform_saveFile ..), perform_bind_ok (perform_announce ..),
    perform_bind_ok (perform_printStep ..), perform_bind_ok (perform_runTests ..)]
  rw [perform_verdict, judged, reported, testsWritten]
  simp only [World.note_script]

end Commit

theorem commit_texts (examiner : Agent) {target : String} (apart : testPath target ≠ target)
    (code : String) (world : World) :
    textsFor target (perform (commit examiner target code) world).2.events =
      textsFor target world.events ++ [code] := by
  cases given : world.script.reply.code? with
  | none => rw [perform_commit_empty given, textsFor_testsAsked, textsFor_committed]
  | some tests =>
    rw [perform_commit_tests given, textsFor_judged apart]

/-! ## The whole campaign -/

def fitCode (script : Script) : Option String :=
  script.reply.code?.filter fun code => (checkSyntax code).isValid

def staged (graph : ImportGraph) (target : String) (world : World) : World :=
  (((world.note [.line ("\n--- INITIATING REFACTOR ON: " ++ target ++ " ---"),
    .line ("🛡️ ACTIVATING DEPENDENCY SHIELD:\n" ++ graph.constraints target)]).enlist refactorer).enlist
    tester).note (Event.heading "Surgeon" "Generating optimized code...")

def conclude (examiner : Agent) (target code : String) : Action Unit :=
  if (checkSyntax code).isValid then commit examiner target code
  else announce "❌ Syntax Error generated. Aborting to protect repo."

theorem perform_treat (graph : ImportGraph) (target : String) (world : World) :
    ∃ (coder examiner : Agent) (message : String), perform (treat graph target) world =
      perform (coder.ask message >>= conclude examiner target) (staged graph target world) := by
  refine ⟨world.nextAgent refactorer, (world.enlist refactorer).nextAgent tester,
    prompt (graph.constraints target) (readOrExplain world.tree target), ?_⟩
  unfold treat
  rw [perform_bind_ok (perform_announce ..), perform_bind_ok (perform_announce ..),
    perform_bind_ok (perform_make ..), perform_bind_ok (perform_make ..),
    perform_bind_ok (perform_fileText ..), perform_bind_ok (perform_printStep ..), World.note_note]
  rfl

theorem staged_asked_unsaved (graph : ImportGraph) (target : String) (world : World) (coder : Agent)
    (message : String) : Unsaved world ((staged graph target world).asked coder message) :=
  ⟨by simp [staged], fun path => by simp [staged]⟩

theorem staged_script (graph : ImportGraph) (target : String) (world : World) :
    (staged graph target world).script = world.script := by
  simp [staged]

theorem perform_ask_conclude {code : String} (coder examiner : Agent) (message target : String)
    {world : World} (given : world.script.reply.code? = some code) :
    perform (coder.ask message >>= conclude examiner target) world =
      perform (conclude examiner target code) (world.asked coder message) := by
  apply perform_bind_ok
  rw [perform_ask, Reply.outcome, given]

theorem treat_unsaved (graph : ImportGraph) {target : String} {world : World}
    (unfit : fitCode world.script = none) : Unsaved world (perform (treat graph target) world).2 := by
  obtain ⟨coder, examiner, message, done⟩ := perform_treat graph target world
  have asked := staged_asked_unsaved graph target world coder message
  have script := staged_script graph target world
  rw [done]
  cases given : world.script.reply.code? with
  | none =>
    rw [perform_bind, perform_ask, script, Reply.outcome, given]
    exact asked
  | some code =>
    have invalid : ¬ (checkSyntax code).isValid = true := by
      simpa [fitCode, given] using unfit
    rw [← script] at given
    rw [perform_ask_conclude coder examiner message target given, conclude, if_neg invalid,
      perform_announce]
    exact asked.trans (.note fun _ => rfl)

theorem treat_texts (graph : ImportGraph) {target : String} (apart : testPath target ≠ target)
    (world : World) :
    textsFor target (perform (treat graph target) world).2.events =
      textsFor target world.events ++ (fitCode world.script).toList := by
  cases found : fitCode world.script with
  | none => rw [Option.toList_none, List.append_nil, (treat_unsaved graph found).texts target]
  | some code =>
    -- the fit code is that of the reply, and it is a program
    obtain ⟨given, valid⟩ := Option.filter_eq_some_iff.mp found
    obtain ⟨coder, examiner, message, done⟩ := perform_treat graph target world
    have asked := staged_asked_unsaved graph target world coder message
    rw [← staged_script graph target world] at given
    rw [done, perform_ask_conclude coder examiner message target given, conclude, if_pos valid,
      commit_texts examiner apart, asked.texts, Option.toList_some]

def surveyLines (tree : Tree) : List Event :=
  let files := sourceFiles tree repositoryFolder
  let targets := scanFiles tree files
  [.line "🕸️ Constructing AST Dependency Graph...",
      .line ("🔍 Scanning " ++ toString files.length ++ " files for complexity...")]
    ++ targets.map (fun path => .line ("  Found Target: " ++ Path.fileName path))
    ++ [.line ("🎯 Targets Acquired: " ++ toString targets.length ++ " candidates.")]

theorem textsFor_surveyLines (path : String) (tree : Tree) : textsFor path (surveyLines tree) = [] := by
  simp [surveyLines]

/-- After the copy the campaign treats its target, if there is one. -/
theorem perform_campaign {world copy : World} (copied : Copied opening world copy) :
    perform campaign world = perform (match target? copy.tree with
      | none => announce "No high-complexity files found in the scan limit. Try increasing scan_limit."
      | some target => treat (ImportGraph.ofFolder copy.tree repositoryFolder) target)
      (copy.note (surveyLines copy.tree)) := by
  refine (copied.perform_bind _).trans ?_
  rw [perform_bind_ok (perform_announce ..), perform_bind_ok (perform_get ..),
    perform_bind_ok (perform_announce ..), perform_bind_ok (perform_forM_announce ..),
    perform_bind_ok (perform_announce ..)]
  simp only [World.note_note, World.note_tree, surveyLines, target?, List.cons_append, List.nil_append]
  cases scanFiles copy.tree (sourceFiles copy.tree repositoryFolder) <;> rfl

theorem campaign_texts {world copy : World} {target : String} (copied : Copied opening world copy)
    (chosen : target? copy.tree = some target) :
    textsFor target (perform campaign world).2.events =
      textsFor target world.events ++ (fitCode world.script).toList := by
  have apart := testPath_ne (endsWith_of_mem_sourceFiles (mem_sourceFiles_of_target chosen))
  rw [perform_campaign copied, chosen]
  simp only [treat_texts _ apart, World.note_events, World.note_script, textsFor_append,
    textsFor_surveyLines, List.append_nil, copied.quiet.texts, copied.quiet.script]

theorem campaign_tree {world copy : World} (copied : Copied opening world copy)
    (unfit : ∀ target, target? copy.tree = some target → fitCode world.script = none) :
    (perform campaign world).2.tree = copy.tree := by
  let surveyed := copy.note (surveyLines copy.tree)
  rw [perform_campaign copied]
  cases chosen : target? copy.tree with
  | none => rw [perform_announce, World.note_tree, World.note_tree]
  | some target =>
    have rejected : fitCode surveyed.script = none := by
      rw [World.note_script, copied.quiet.script]
      exact unfit target chosen
    exact (treat_unsaved (ImportGraph.ofFolder copy.tree repositoryFolder) rejected).tree

end Refactory.Campaign.Single
