import Refactory.Proofs.Campaign.Copy
import Refactory.Proofs.Campaign.Target

/-! The texts that the guarded campaign hands over for its target.

They are a function of the answers alone: the first fit code among the replies of the refactoring
stage, and after it the patches of the repair stage that are programs. The first one keeps the global
names of the old text; nothing asks that of the patches.
-/

set_option autoImplicit false

namespace Refactory.Campaign

namespace Guarded

open Workspace Analysis
open World (Unsaved)

theorem judge_eq_none_iff (old code : String) :
    judge old code = none ↔ (checkSyntax code).isValid = true ∧ (checkScope old code).isAccepted = true := by
  unfold judge
  cases checkSyntax code with
  | invalid error => simp [SyntaxVerdict.isValid]
  | valid => simp [SyntaxVerdict.isValid]

/-! ## The refactoring stage -/

def attempted (agent : Agent) (first : String) (left : Nat) (last : Option Rejection) (world : World) :
    World :=
  (world.note [.line ("Attempt " ++ toString (attemptLimit - left) ++ " to generate safe code...")]).asked
    agent (promptAfter first last)

theorem attempted_unsaved (agent : Agent) (first : String) (left : Nat) (last : Option Rejection)
    (world : World) : Unsaved world (attempted agent first left last world) :=
  .trans (.note fun _ => rfl) (.asked ..)

section Attempt

variable {agent : Agent} {old first : String} {left : Nat} {last : Option Rejection} {world : World}

theorem perform_refactor_empty (empty : world.script.reply.code? = none) :
    perform (refactor agent old first (left + 1) last) world =
      (.error emptyReply, attempted agent first left last world) := by
  simp only [refactor, perform_bind, perform_announce, perform_ask, World.note_script,
    Reply.outcome, empty]
  rfl

theorem perform_refactor_fit {code : String} (given : world.script.reply.code? = some code)
    (fit : judge old code = none) :
    perform (refactor agent old first (left + 1) last) world =
      (.ok (some code), attempted agent first left last world) := by
  simp only [refactor, perform_bind, perform_announce, perform_ask, World.note_script,
    Reply.outcome, given, fit, perform_pure]
  rfl

theorem perform_refactor_rejected {code : String} {rejection : Rejection}
    (given : world.script.reply.code? = some code) (rejected : judge old code = some rejection) :
    perform (refactor agent old first (left + 1) last) world =
      perform (refactor agent old first left (some rejection))
        ((attempted agent first left last world).note [.line rejection.notice]) := by
  conv => lhs; unfold refactor
  simp only [perform_bind, perform_announce, perform_ask, World.note_script, Reply.outcome, given,
    rejected]
  rfl

end Attempt

/-- The first fit code among so many replies, and the script after it. An empty reply ends the stage. -/
def fitCode (old : String) : Nat → Script → Option (String × Script)
  | 0, _ => none
  | left + 1, script => match script.reply.code? with
      | none => none
      | some code => match judge old code with
          | none => some (code, script.afterReply)
          | some _ => fitCode old left script.afterReply

/-- The stage ends without a code exactly if it rejects all that it is offered. -/
theorem fitCode_eq_none_iff (old : String) (left : Nat) (script : Script) :
    fitCode old left script = none ↔ ∀ code ∈ offered left script, judge old code ≠ none := by
  induction left generalizing script with
  | zero => simp [fitCode, offered]
  | succ left ih =>
    unfold fitCode offered
    cases script.reply.code? with
    | none => simp
    | some code =>
      cases verdict : judge old code with
      | none => simp [verdict]
      | some rejection => simp [verdict, ih]

theorem fitCode_of_fit {old code : String} {script : Script} (left : Nat)
    (given : script.reply.code? = some code) (fit : judge old code = none) :
    fitCode old (left + 1) script = some (code, script.afterReply) := by
  simp only [fitCode, given, fit]

theorem fitCode_of_unfit {old code : String} {script : Script} (left : Nat)
    (given : script.reply.code? = some code) (unfit : judge old code ≠ none) :
    fitCode old (left + 1) script = fitCode old left script.afterReply := by
  obtain ⟨rejection, verdict⟩ := Option.ne_none_iff_exists'.mp unfit
  simp only [fitCode, given, verdict]

theorem judge_of_fitCode {old code : String} {left : Nat} {script rest : Script}
    (found : fitCode old left script = some (code, rest)) : judge old code = none := by
  -- along the replies: one that is rejected leaves the question to those after it
  induction left generalizing script with
  | zero => cases found
  | succ left ih =>
    unfold fitCode at found
    split at found
    · cases found
    · split at found
      · next fit =>
        cases found
        exact fit
      · exact ih found

/-- The stage finds the first fit code, and saves nothing. -/
theorem refactor_of_fitCode (agent : Agent) (first : String) {old code : String} {left : Nat}
    {rest : Script} (last : Option Rejection) (world : World)
    (found : fitCode old left world.script = some (code, rest)) :
    ∃ after, perform (refactor agent old first left last) world = (.ok (some code), after) ∧
      after.script = rest ∧ Unsaved world after := by
  -- for every last rejection and world, since an attempt that fails changes both
  induction left generalizing world last with
  | zero => cases found
  | succ left ih =>
    unfold fitCode at found
    split at found
    · cases found
    · next reply given =>
      have answered := attempted_unsaved agent first left last world
      split at found
      · next fit =>
        cases found
        exact ⟨_, perform_refactor_fit given fit, rfl, answered⟩
      · next rejection rejected =>
        let told := (attempted agent first left last world).note [.line rejection.notice]
        obtain ⟨after, done, script, unsaved⟩ := ih (some rejection) told found
        have silent : Unsaved world told := answered.trans (.note fun _ => rfl)
        exact ⟨after, (perform_refactor_rejected given rejected).trans done, script,
          silent.trans unsaved⟩

/-- Without a fit code the stage ends in nothing or in failure, and saves nothing. -/
theorem refactor_of_no_fitCode (agent : Agent) (first : String) {old : String} {left : Nat}
    (last : Option Rejection) (world : World) (unfit : fitCode old left world.script = none) :
    ∃ outcome after, perform (refactor agent old first left last) world = (outcome, after) ∧
      (outcome = .ok none ∨ outcome = .error emptyReply) ∧ Unsaved world after := by
  induction left generalizing world last with
  | zero => exact ⟨_, _, perform_pure none world, Or.inl rfl, rfl, fun _ => rfl⟩
  | succ left ih =>
    have answered := attempted_unsaved agent first left last world
    unfold fitCode at unfit
    split at unfit
    · next empty => exact ⟨_, _, perform_refactor_empty empty, Or.inr rfl, answered⟩
    · next code given =>
      split at unfit
      · cases unfit
      · next rejection rejected =>
        let told := (attempted agent first left last world).note [.line rejection.notice]
        obtain ⟨outcome, after, done, ending, unsaved⟩ := ih (some rejection) told unfit
        have silent : Unsaved world told := answered.trans (.note fun _ => rfl)
        exact ⟨outcome, after, (perform_refactor_rejected given rejected).trans done, ending,
          silent.trans unsaved⟩

/-! ## The repair stage -/

def examined (tests : String) (left : Nat) (world : World) : World :=
  (world.note (Event.heading "Executioner"
    ("Running Validation (Attempt " ++ toString (repairLimit - left) ++ ")..."))).tested tests

def consulted (agent : Agent) (tests : String) (left : Nat) (code : String) (world : World) : World :=
  ((examined tests left world).note [.line "❌ Tests Failed. Triggering Self-Healing..."]).asked agent
    (repairPrompt world.script.testRun.report code)

def patched (target patch : String) (world : World) : World :=
  (world.save target patch).note [.line "🩹 Patch applied. Retrying tests..."]

section Round

variable {agent : Agent} {target tests code : String} {left : Nat} {world : World}

theorem perform_heal_passed (passed : showsOnlySuccess world.script.testRun.report = true) :
    perform (heal agent target tests (left + 1) code) world =
      (.ok true, (examined tests left world).note
        [.line "🎉 SUCCESS: Refactor verified clean.", .logged ("SUCCESS: " ++ target)]) := by
  simp only [heal, perform_bind, perform_printStep, perform_runTests, World.note_script, passed,
    if_true, perform_announce, perform_log, perform_pure, World.note_note]
  rfl

theorem perform_heal_failed (failed : showsOnlySuccess world.script.testRun.report = false) :
    perform (heal agent target tests (left + 1) code) world =
      match world.script.reply.outcome with
      | .error failure => (.error failure, consulted agent tests left code world)
      | .ok patch =>
        if (checkSyntax patch).isValid then
          perform (heal agent target tests left patch)
            (patched target patch (consulted agent tests left code world))
        else perform (heal agent target tests left patch) (consulted agent tests left code world) := by
  -- running the tests takes no reply
  have same : world.script.afterTestRun.reply = world.script.reply := rfl
  conv => lhs; unfold heal
  simp only [perform_bind, perform_printStep, perform_runTests, World.note_script, failed,
    Bool.false_eq_true, if_false, perform_announce, perform_ask, World.tested_script, same]
  cases world.script.reply.outcome with
  | error failure => rfl
  | ok patch =>
    by_cases valid : (checkSyntax patch).isValid
    · simp only [valid, if_true, perform_bind, perform_saveFile, perform_announce]
      rfl
    · simp only [valid, Bool.false_eq_true, if_false]
      rfl

end Round

/-- The patches that so many rounds of repair save: the programs among the replies, up to the first run
of the tests that passes. An empty reply ends the stage. -/
def patches : Nat → Script → List String
  | 0, _ => []
  | left + 1, script =>
      if showsOnlySuccess script.testRun.report then []
      else match script.reply.code? with
        | none => []
        | some patch =>
            (if (checkSyntax patch).isValid then [patch] else []) ++
              patches left script.afterTestRun.afterReply

theorem valid_of_mem_patches {left : Nat} {script : Script} {patch : String}
    (member : patch ∈ patches left script) : (checkSyntax patch).isValid = true := by
  induction left generalizing script with
  | zero => cases member
  | succ left ih =>
    unfold patches at member
    split at member
    · cases member
    · split at member
      · cases member
      · rcases List.mem_append.mp member with now | later
        · split at now
          · next valid => rwa [List.mem_singleton.mp now]
          · cases now
        · exact ih later

theorem textsFor_consulted (path : String) (agent : Agent) (tests : String) (left : Nat)
    (code : String) (world : World) :
    textsFor path (consulted agent tests left code world).events = textsFor path world.events := by
  simp [consulted, examined]

theorem consulted_script (agent : Agent) (tests : String) (left : Nat) (code : String) (world : World) :
    (consulted agent tests left code world).script = world.script.afterTestRun.afterReply := rfl

/-- The repair stage hands over its patches for the target, in order. -/
theorem heal_texts (agent : Agent) (target tests : String) (left : Nat) (code : String)
    (world : World) :
    textsFor target (perform (heal agent target tests left code) world).2.events =
      textsFor target world.events ++ patches left world.script := by
  -- a round that fails hands over at most one text; the rest come from the rounds that are left
  induction left generalizing code world with
  | zero =>
    simp only [heal, perform_pure, patches, List.append_nil]
  | succ left ih =>
    unfold patches
    cases verdict : showsOnlySuccess world.script.testRun.report with
    | true =>
      rw [perform_heal_passed verdict]
      simp [examined]
    | false =>
      rw [perform_heal_failed verdict]
      cases given : world.script.reply.code? with
      | none =>
        simp only [Reply.outcome, given]
        simp [textsFor_consulted]
      | some patch =>
        simp only [Reply.outcome, given]
        by_cases valid : (checkSyntax patch).isValid
        · rw [if_pos valid, if_pos valid, ih]
          simp [patched, consulted_script, textsFor_consulted]
        · rw [if_neg valid, if_neg valid, ih]
          simp [consulted_script, textsFor_consulted]

/-! ## The whole campaign -/

/-- The patches that follow a commit. Tests are asked for and run before the repair stage, and asked
for once more. -/
def patchesAfterCommit (script : Script) : List String :=
  match script.reply.code?, script.afterReply.reply.code? with
  | some _, some _ => patches repairLimit script.afterReply.afterTestRun.afterReply
  | _, _ => []

theorem perform_writeTests (agent : Agent) (path code : String) (world : World) :
    perform (writeTests agent path code) world = match world.script.reply.outcome with
      | .ok tests => (.ok (), testsWritten agent path (testPrompt code) tests world)
      | .error failure => (.error failure, testsAsked agent (testPrompt code) world) := by
  simp only [writeTests, perform_bind, perform_printStep, perform_ask, World.note_script]
  cases world.script.reply.outcome with
  | error failure => rfl
  | ok tests =>
    simp only [perform_saveFile, perform_announce]
    rfl

theorem perform_report (target tests : String) (next : Action Unit) (world : World) :
    perform (do
      printStep "Executioner" "Running Validation..."
      let report ← runTests tests
      if showsSuccess report then
        announce "🎉 SUCCESS: Refactor verified clean."
        log ("SUCCESS: " ++ target)
      else
        announce "⚠ WARNING: Tests failed. Manual review required."
        log ("FAILURE: " ++ target)
      next) world = perform next (reported target tests world) := by
  simp only [perform_bind, perform_printStep, perform_runTests, World.note_script, showsSuccess]
  by_cases verdict : Text.contains world.script.testRun.report "passed"
  · simp only [verdict, if_true, perform_bind, perform_announce, perform_log, reported,
      verdictLines, World.note_note, List.singleton_append]
  · simp only [verdict, Bool.false_eq_true, if_false, perform_bind, perform_announce, perform_log,
      reported, verdictLines, World.note_note, List.singleton_append]

def commitLine : String := "✔ Code passed Safety Protocols. Applied to disk."

def repair (coder : Agent) (target code : String) : Action Unit := do
  if !(← heal coder target (testPath target) repairLimit code) then
    announce "🛑 Manual Review Required."

section Commit

variable {coder examiner : Agent} {target code : String} {world : World}

theorem perform_commit_empty (empty : world.script.reply.code? = none) :
    perform (commit coder examiner target code) world =
      (.error emptyReply, testsAsked examiner (testPrompt code) (committed commitLine target code world)) := by
  simp only [commit, perform_bind, perform_saveFile, perform_announce, perform_writeTests,
    World.note_script, World.save_script, Reply.outcome, empty]
  rfl

/-- With tests to run, the report is looked at, and tests are asked for once more before the repair. -/
theorem perform_commit_tests {tests : String} (given : world.script.reply.code? = some tests) :
    perform (commit coder examiner target code) world =
      perform (do writeTests examiner (testPath target) code; repair coder target code)
        (judged commitLine examiner target code (testPrompt code) tests world) := by
  have written : perform (writeTests examiner (testPath target) code) (committed commitLine target code world) =
      (.ok (), testsWritten examiner (testPath target) (testPrompt code) tests
        (committed commitLine target code world)) := by
    simp only [perform_writeTests, committed_script, Reply.outcome, given]
  unfold commit
  rw [perform_bind_ok (perform_saveFile ..), perform_bind_ok (perform_announce ..)]
  refine (perform_bind_ok written _).trans ?_
  exact perform_report target (testPath target) _ _

-- The second request for tests comes after their first run, which takes no reply.
theorem perform_commit_once {tests : String} (first : world.script.reply.code? = some tests)
    (second : world.script.afterReply.reply.code? = none) :
    perform (commit coder examiner target code) world =
      (.error emptyReply, testsAsked examiner (testPrompt code)
        (judged commitLine examiner target code (testPrompt code) tests world)) := by
  have same : world.script.afterReply.afterTestRun.reply = world.script.afterReply.reply := rfl
  rw [perform_commit_tests first, perform_bind, perform_writeTests, judged_script, same, Reply.outcome, second]

/-- With tests given twice, a commit goes on as its repair stage. -/
theorem perform_commit_twice {tests others : String} (first : world.script.reply.code? = some tests)
    (second : world.script.afterReply.reply.code? = some others) :
    perform (commit coder examiner target code) world =
      perform (repair coder target code) (testsWritten examiner (testPath target) (testPrompt code) others
        (judged commitLine examiner target code (testPrompt code) tests world)) := by
  have same : world.script.afterReply.afterTestRun.reply = world.script.afterReply.reply := rfl
  rw [perform_commit_tests first, perform_bind, perform_writeTests, judged_script, same, Reply.outcome, second]

end Commit

theorem perform_repair (coder : Agent) (target code : String) (world : World) :
    ∃ text, (perform (repair coder target code) world).2 =
        (perform (heal coder target (testPath target) repairLimit code) world).2 ∨
      (perform (repair coder target code) world).2 =
        (perform (heal coder target (testPath target) repairLimit code) world).2.note [.line text] := by
  refine ⟨"🛑 Manual Review Required.", ?_⟩
  rw [repair, perform_bind]
  rcases perform (heal coder target (testPath target) repairLimit code) world with ⟨outcome, after⟩
  cases outcome with
  | error failure => exact .inl rfl
  | ok passed =>
    cases passed with
    | true => simp only [Bool.not_true, Bool.false_eq_true, if_false, perform_pure, true_or]
    | false => simp only [Bool.not_false, if_true, perform_announce, or_true]

theorem repair_texts (coder : Agent) (target code : String) (world : World) :
    textsFor target (perform (repair coder target code) world).2.events =
      textsFor target world.events ++ patches repairLimit world.script := by
  rw [← heal_texts coder target (testPath target) repairLimit code world]
  obtain ⟨text, ended | ended⟩ := perform_repair coder target code world
  · rw [ended]
  · simp [ended]

/-- A commit hands over the code for the target, and then its patches. -/
theorem commit_texts (coder examiner : Agent) {target : String} (apart : testPath target ≠ target)
    (code : String) (world : World) :
    textsFor target (perform (commit coder examiner target code) world).2.events =
      textsFor target world.events ++ code :: patchesAfterCommit world.script := by
  unfold patchesAfterCommit
  cases first : world.script.reply.code? with
  | none =>
    rw [perform_commit_empty first]
    simp [textsFor_testsAsked, textsFor_committed]
  | some tests =>
    -- the tests go to another path, so they add no text
    cases second : world.script.afterReply.reply.code? with
    | none =>
      rw [perform_commit_once first second]
      simp [textsFor_testsAsked, textsFor_judged apart]
    | some others =>
      rw [perform_commit_twice first second, repair_texts, textsFor_testsWritten apart, textsFor_judged apart,
        testsWritten_script, judged_script]
      simp

def targetTexts (old : String) (script : Script) : List String :=
  match fitCode old attemptLimit script with
  | none => []
  | some (code, rest) => code :: patchesAfterCommit rest

theorem targetTexts_eq_nil_iff {old : String} {script : Script} :
    targetTexts old script = [] ↔ fitCode old attemptLimit script = none := by
  unfold targetTexts
  cases fitCode old attemptLimit script <;> simp

theorem valid_of_mem_targetTexts {old text : String} {script : Script}
    (member : text ∈ targetTexts old script) : (checkSyntax text).isValid = true := by
  unfold targetTexts at member
  split at member
  · cases member
  · next code rest found =>
    rcases List.mem_cons.mp member with rfl | later
    · exact ((judge_eq_none_iff old text).mp (judge_of_fitCode found)).1
    · unfold patchesAfterCommit at later
      split at later
      · exact valid_of_mem_patches later
      · cases later

def staged (graph : ImportGraph) (target : String) (world : World) : World :=
  ((world.note [.line ("\n--- INITIATING SEMANTIC REFACTOR ON: " ++ target ++ " ---"),
    .line ("🛡️ ACTIVATING DEPENDENCY SHIELD:\n" ++ graph.constraints target)]).enlist refactorer).enlist
    tester

def conclude (coder examiner : Agent) (target : String) : Option String → Action Unit
  | none => announce
      ("🛑 FATAL: Could not generate safe code after " ++ toString attemptLimit ++ " attempts.")
  | some code => commit coder examiner target code

def proposal (graph : ImportGraph) (target : String) (world : World) : Action (Option String) :=
  refactor (world.nextAgent refactorer) (readOrExplain world.tree target)
    (prompt (graph.constraints target) (readOrExplain world.tree target)) attemptLimit none

theorem perform_treat_proposal (graph : ImportGraph) (target : String) (world : World) :
    perform (treat graph target) world = perform (proposal graph target world >>=
      conclude (world.nextAgent refactorer) ((world.enlist refactorer).nextAgent tester) target)
      (staged graph target world) := by
  unfold treat
  rw [perform_bind_ok (perform_announce ..), perform_bind_ok (perform_announce ..),
    perform_bind_ok (perform_make ..), perform_bind_ok (perform_make ..),
    perform_bind_ok (perform_fileText ..), World.note_note]
  rfl

theorem perform_treat (graph : ImportGraph) (target : String) (world : World) :
    ∃ coder examiner first, perform (treat graph target) world =
      perform (refactor coder (readOrExplain world.tree target) first attemptLimit none >>=
        conclude coder examiner target) (staged graph target world) :=
  ⟨_, _, _, perform_treat_proposal graph target world⟩

theorem staged_unsaved (graph : ImportGraph) (target : String) (world : World) :
    Unsaved world (staged graph target world) :=
  ⟨by simp [staged], fun path => by simp [staged]⟩

theorem treat_unsaved (graph : ImportGraph) {target : String} {world : World}
    (unfit : fitCode (readOrExplain world.tree target) attemptLimit world.script = none) :
    Unsaved world (perform (treat graph target) world).2 := by
  obtain ⟨coder, examiner, first, done⟩ := perform_treat graph target world
  obtain ⟨outcome, after, ended, ending, unsaved⟩ :=
    refactor_of_no_fitCode coder first none (staged graph target world) unfit
  have kept := (staged_unsaved graph target world).trans unsaved
  rw [done]
  rcases ending with rfl | rfl
  · rw [perform_bind_ok ended, conclude, perform_announce]
    exact kept.trans (.note fun _ => rfl)
  · rw [perform_bind_error ended]
    exact kept

theorem treat_texts (graph : ImportGraph) {target : String} (apart : testPath target ≠ target)
    (world : World) :
    textsFor target (perform (treat graph target) world).2.events =
      textsFor target world.events ++ targetTexts (readOrExplain world.tree target) world.script := by
  unfold targetTexts
  cases found : fitCode (readOrExplain world.tree target) attemptLimit world.script with
  | none => rw [List.append_nil, (treat_unsaved graph found).texts target]
  | some fit =>
    obtain ⟨code, rest⟩ := fit
    obtain ⟨coder, examiner, first, done⟩ := perform_treat graph target world
    obtain ⟨after, ended, script, unsaved⟩ :=
      refactor_of_fitCode coder first none (staged graph target world) found
    have begun := (staged_unsaved graph target world).trans unsaved
    rw [done, perform_bind_ok ended, conclude, commit_texts coder examiner apart, script,
      begun.texts target]

def opening : String := "🚀 INITIALIZING RESEARCH PROTOCOL: GRAPH-GUIDED SEMANTIC REFACTORING"

def surveyLines (tree : Tree) : List Event :=
  let files := sourceFiles tree repositoryFolder
  let scan := scanFiles tree files
  [.line "🕸️ Constructing AST Dependency Graph (Novelty Layer)...", .logged "Graph Construction Complete.",
      .line ("🔍 Scanning " ++ toString files.length ++ " files for Technical Debt...")]
    ++ scan.primes.map (fun path => .line ("  Found PRIME Target: " ++ Path.fileName path))
    ++ [.line ("🎯 Targets Acquired: " ++ toString scan.queue.length ++ " candidates.")]

theorem textsFor_surveyLines (path : String) (tree : Tree) : textsFor path (surveyLines tree) = [] := by
  simp [surveyLines]

/-- After the copy the campaign treats its target, if there is one. -/
theorem perform_campaign {world copy : World} (copied : Copied opening world copy) :
    perform campaign world = perform (match target? copy.tree with
      | none => announce "No targets found. Try increasing scan_limit."
      | some target => treat (ImportGraph.ofFolder copy.tree repositoryFolder) target)
      (copy.note (surveyLines copy.tree)) := by
  refine (copied.perform_bind _).trans ?_
  rw [perform_bind_ok (perform_announce ..), perform_bind_ok (perform_get ..),
    perform_bind_ok (perform_log ..), perform_bind_ok (perform_announce ..),
    perform_bind_ok (perform_forM_announce ..), perform_bind_ok (perform_announce ..)]
  simp only [World.note_note, World.note_tree, surveyLines, target?, List.cons_append,
    List.nil_append]
  cases (scanFiles copy.tree (sourceFiles copy.tree repositoryFolder)).queue <;> rfl

def begun (target : String) (copy : World) : World :=
  staged (ImportGraph.ofFolder copy.tree repositoryFolder) target (copy.note (surveyLines copy.tree))

def proposalFor (target : String) (copy : World) : Action (Option String) :=
  proposal (ImportGraph.ofFolder copy.tree repositoryFolder) target (copy.note (surveyLines copy.tree))

def proposed (target : String) (copy : World) : World :=
  (perform (proposalFor target copy) (begun target copy)).2

section Proposed

variable {world copy : World} {target : String} (copied : Copied opening world copy)
  (chosen : target? copy.tree = some target)

include copied

theorem begun_script (target : String) : (begun target copy).script = world.script := by
  rw [begun, staged, World.enlist_script, World.enlist_script, World.note_script, World.note_script,
    copied.quiet.script]

include chosen

theorem perform_campaign_proposal : ∃ coder examiner, perform campaign world =
    perform (proposalFor target copy >>= conclude coder examiner target) (begun target copy) := by
  rw [perform_campaign copied, chosen]
  exact ⟨_, _, perform_treat_proposal ..⟩

/-- With a fit code, the campaign goes on as a commit of it. -/
theorem perform_campaign_commit {code : String} {rest : Script}
    (found : fitCode (readOrExplain copy.tree target) attemptLimit world.script = some (code, rest)) :
    (proposed target copy).script = rest ∧ ∃ coder examiner,
      perform campaign world = perform (commit coder examiner target code) (proposed target copy) := by
  obtain ⟨coder, examiner, done⟩ := perform_campaign_proposal copied chosen
  rw [← begun_script copied target] at found
  obtain ⟨after, ended, script, _⟩ := refactor_of_fitCode _ _ none (begun target copy) found
  have same : after = proposed target copy := (congrArg Prod.snd ended).symm
  subst same
  exact ⟨script, coder, examiner, done.trans (perform_bind_ok ended _)⟩

/-- Without one, at most a line follows. -/
theorem perform_campaign_unfit
    (unfit : fitCode (readOrExplain copy.tree target) attemptLimit world.script = none) :
    (perform campaign world).2 = proposed target copy ∨
      ∃ text, (perform campaign world).2 = (proposed target copy).note [.line text] := by
  obtain ⟨coder, examiner, done⟩ := perform_campaign_proposal copied chosen
  rw [← begun_script copied target] at unfit
  obtain ⟨outcome, after, ended, ending, _⟩ := refactor_of_no_fitCode _ _ none (begun target copy) unfit
  have same : after = proposed target copy := (congrArg Prod.snd ended).symm
  subst same
  rcases ending with rfl | rfl
  · rw [done.trans (perform_bind_ok ended _), conclude, perform_announce]
    exact .inr ⟨_, rfl⟩
  · rw [done.trans (perform_bind_error ended _)]
    exact .inl rfl

end Proposed

/-- The texts that the whole campaign hands over for its target. -/
theorem campaign_texts {world copy : World} {target : String} (copied : Copied opening world copy)
    (chosen : target? copy.tree = some target) :
    textsFor target (perform campaign world).2.events =
      textsFor target world.events ++ targetTexts (readOrExplain copy.tree target) world.script := by
  have apart := testPath_ne (endsWith_of_mem_sourceFiles (mem_sourceFiles_of_target chosen))
  rw [perform_campaign copied, chosen]
  simp only [treat_texts _ apart, World.note_events, World.note_tree, World.note_script,
    textsFor_append, textsFor_surveyLines, List.append_nil, copied.quiet.texts, copied.quiet.script]

/-- Without a fit code for its target the campaign leaves all files as they were copied. -/
theorem campaign_tree {world copy : World} (copied : Copied opening world copy)
    (unfit : ∀ target, target? copy.tree = some target →
      fitCode (readOrExplain copy.tree target) attemptLimit world.script = none) :
    (perform campaign world).2.tree = copy.tree := by
  let surveyed := copy.note (surveyLines copy.tree)
  rw [perform_campaign copied]
  cases chosen : target? copy.tree with
  | none => rw [perform_announce, World.note_tree, World.note_tree]
  | some target =>
    have rejected : fitCode (readOrExplain surveyed.tree target) attemptLimit surveyed.script = none := by
      rw [World.note_script, copied.quiet.script]
      exact unfit target chosen
    exact (treat_unsaved (ImportGraph.ofFolder copy.tree repositoryFolder) rejected).tree

end Guarded

end Refactory.Campaign
