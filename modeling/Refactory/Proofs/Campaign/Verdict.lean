import Refactory.Campaign.Console
import Refactory.Proofs.Campaign.Guarded
import Refactory.Proofs.Campaign.Single
import Refactory.Proofs.Text.Search

/-! How the campaigns take the report of their tests.

They look for words in it and never at the exit code of the run. What they tell agrees with the exit
code only where the words of the run do.
-/

set_option autoImplicit false

namespace Refactory.Campaign

variable {α : Type}

open Analysis

/-! ## The words of a report -/

theorem report_finished (exit : Int) (output errors : String) :
    (TestRun.finished exit output errors).report =
      if exit = 0 then "TESTS PASSED:\n" ++ output
      else "TESTS FAILED:\n" ++ output ++ "\n" ++ errors := rfl

/-- A word that is not in the heading of a report comes from the output of the run, or from its errors,
which are reported only of a run that failed. -/
theorem contains_report {word : String} (single : '\n' ∉ word.toList)
    (passing : Text.contains "TESTS PASSED:" word = false)
    (failing : Text.contains "TESTS FAILED:" word = false) (exit : Int) (output errors : String) :
    Text.contains (TestRun.finished exit output errors).report word = true ↔
      Text.contains output word = true ∨ exit ≠ 0 ∧ Text.contains errors word = true := by
  -- the heading ends with a line break, which no word reaches across
  by_cases success : exit = 0
  · have heading : "TESTS PASSED:\n" = "TESTS PASSED:" ++ "\n" := by simp
    rw [report_finished, if_pos success, heading, Text.contains_lines _ _ _ single, passing,
      Bool.false_or]
    simp [success]
  · have heading : "TESTS FAILED:\n" = "TESTS FAILED:" ++ "\n" := by simp
    rw [report_finished, if_neg success, heading, Text.contains_lines _ _ _ single,
      Text.contains_lines _ _ _ single, failing, Bool.false_or, Bool.or_eq_true]
    simp [success]

theorem showsSuccess_report (exit : Int) (output errors : String) :
    Text.contains (TestRun.finished exit output errors).report "passed" = true ↔
      Text.contains output "passed" = true ∨ exit ≠ 0 ∧ Text.contains errors "passed" = true :=
  contains_report (by decide) (by decide) (by decide) exit output errors

/-- The run says that something passed exactly if it succeeded. -/
def Truthful (exit : Int) (output errors : String) : Prop :=
  exit = 0 ∧ Text.contains output "passed" = true ∨
    exit ≠ 0 ∧ Text.contains output "passed" = false ∧ Text.contains errors "passed" = false

/-- It says that something passed and nothing failed exactly if it succeeded. -/
def PlainlyTruthful (exit : Int) (output errors : String) : Prop :=
  exit = 0 ∧ Text.contains output "passed" = true ∧ Text.contains output "failed" = false ∨
    exit ≠ 0 ∧ (Text.contains output "failed" = true ∨ Text.contains errors "failed" = true ∨
      Text.contains output "passed" = false ∧ Text.contains errors "passed" = false)

theorem showsSuccess_iff_zero_iff (exit : Int) (output errors : String) :
    (Text.contains (TestRun.finished exit output errors).report "passed" = true ↔ exit = 0) ↔
      Truthful exit output errors := by
  rw [showsSuccess_report, Truthful]
  by_cases success : exit = 0
  · simp [success]
  · simp [success]

theorem showsOnlySuccess_iff_zero_iff (exit : Int) (output errors : String) :
    (Guarded.showsOnlySuccess (TestRun.finished exit output errors).report = true ↔ exit = 0) ↔
      PlainlyTruthful exit output errors := by
  have failures := contains_report (by decide : '\n' ∉ "failed".toList) (by decide) (by decide) exit
    output errors
  rw [Guarded.showsOnlySuccess, Bool.and_eq_true, Bool.not_eq_true', ← Bool.not_eq_true,
    showsSuccess_report, failures, PlainlyTruthful]
  by_cases success : exit = 0
  · simp [success]
  · simp only [success, ne_eq, not_false_eq_true, true_and, iff_false, false_and, false_or]
    grind

/-! ## What is told of a run -/

def reaction : List Event → Option Event
  | [] => none
  | .testsRun _ :: rest => rest.head?
  | _ :: rest => reaction rest

/-- The action tells this as soon as its tests have been run. -/
def Tells (event : Event) (action : Action α) (world : World) : Prop :=
  ∃ events, (perform action world).2.events = world.events ++ events ∧ reaction events = some event

def World.Untested (before after : World) : Prop :=
  ∃ events, after.events = before.events ++ events ∧ ∀ rest, reaction (events ++ rest) = reaction rest

namespace World.Untested

theorem trans {first second third : World} (left : Untested first second)
    (right : Untested second third) : Untested first third := by
  obtain ⟨earlier, before, silent⟩ := left
  obtain ⟨later, after, still⟩ := right
  refine ⟨earlier ++ later, ?_, fun rest => ?_⟩
  · rw [after, before, List.append_assoc]
  · rw [List.append_assoc, silent, still]

theorem note (world : World) {events : List Event}
    (silent : ∀ rest, reaction (events ++ rest) = reaction rest) : Untested world (world.note events) :=
  ⟨events, rfl, silent⟩

theorem asked (world : World) (agent : Agent) (message : String) :
    Untested world (world.asked agent message) :=
  ⟨_, world.asked_events agent message, fun _ => rfl⟩

theorem save (world : World) (path text : String) : Untested world (world.save path text) :=
  ⟨_, world.save_events path text, fun _ => rfl⟩

theorem enlist (world : World) (profile : Profile) : Untested world (world.enlist profile) :=
  ⟨_, world.enlist_events profile, fun _ => rfl⟩

end World.Untested

/-- An action that runs its tests and then tells one of two things, by a verdict. -/
theorem tells_iff {action : Action α} {world before : World} {path : String} {good bad : Event}
    {verdict : Bool} (untested : World.Untested world before)
    (goes : ((before.tested path).note [if verdict then good else bad]).events <+:
      (perform action world).2.events) (differ : bad ≠ good) :
    Tells good action world ↔ verdict = true := by
  obtain ⟨quiet, begun, silent⟩ := untested
  obtain ⟨more, ended⟩ := goes
  -- the events before the tests are silent, so the reaction is the event after them
  have whole : (perform action world).2.events = world.events ++
      (quiet ++ .testsRun (testCommand path) :: (if verdict then good else bad) :: more) := by
    rw [← ended, World.note_events, World.tested_events, begun]
    simp
  constructor
  · rintro ⟨events, same, told⟩
    rw [whole] at same
    rw [← List.append_cancel_left same, silent] at told
    cases verdict with
    | true => rfl
    | false => exact absurd (Option.some.inj told) differ
  · rintro rfl
    exact ⟨_, whole, silent _⟩

def praise : Event := .line "🎉 SUCCESS: Refactor verified clean."

def shownPraise : Event := .shown .page .success [.text "🎉 Tests Passed: Logic Verified."] []

theorem warning_ne_praise : Event.line "⚠ WARNING: Tests failed. Manual review required." ≠ praise := by
  intro same
  injection same with text
  revert text
  decide +kernel

theorem alarm_ne_praise : Event.line "❌ Tests Failed. Triggering Self-Healing..." ≠ praise := by
  intro same
  injection same with text
  revert text
  decide +kernel

/-! ## The four checks -/

theorem testsWritten_untested (agent : Agent) (path message tests : String) (world : World) :
    World.Untested world (testsWritten agent path message tests world) := by
  have asked : World.Untested world (testsAsked agent message world) :=
    .trans (.note world fun _ => rfl) (.asked ..)
  exact (asked.trans (.save ..)).trans (.note _ fun _ => rfl)

/-- An action that looks at the report of tests for saved code tells whether the report has the word
for success. -/
theorem judged_tells_iff {action : Action α} {world : World} {line : String} {examiner : Agent}
    {target code message tests : String}
    (goes : (judged line examiner target code message tests world).events <+:
      (perform action world).2.events) :
    Tells praise action world ↔ Text.contains world.script.testRun.report "passed" = true := by
  let covered := testsWritten examiner (testPath target) message tests (committed line target code world)
  have committing : World.Untested world (committed line target code world) :=
    .trans (.save ..) (.note _ fun _ => rfl)
  have covering : World.Untested world covered := committing.trans (testsWritten_untested ..)
  have script : covered.script = world.script.afterReply := by
    rw [testsWritten_script, committed_script]
  have told : (((covered.note (Event.heading "Executioner" "Running Validation...")).tested
      (testPath target)).note [if Text.contains world.script.afterReply.testRun.report "passed" then praise
        else .line "⚠ WARNING: Tests failed. Manual review required."]).events <+:
      (judged line examiner target code message tests world).events := by
    rw [judged, reported, script, verdictLines, World.note_events, World.note_events,
      List.prefix_append_right_inj]
    split
    · exact ⟨[.logged ("SUCCESS: " ++ target)], rfl⟩
    · exact ⟨[.logged ("FAILURE: " ++ target)], rfl⟩
  exact tells_iff (covering.trans (.note _ fun _ => rfl)) (told.trans goes) warning_ne_praise

theorem Single.commit_tells_iff (examiner : Agent) (target code : String) {world : World}
    {tests : String} (given : world.script.reply.code? = some tests) :
    Tells praise (Single.commit examiner target code) world ↔
      Text.contains world.script.testRun.report "passed" = true := by
  have goes : (judged Single.commitLine examiner target code (Single.testPrompt code) tests world).events <+:
      (perform (Single.commit examiner target code) world).2.events := by
    simp only [Single.perform_commit_tests given, List.prefix_rfl]
  exact judged_tells_iff goes

namespace Guarded

theorem heal_failed_extends {coder : Agent} {target tests code : String} {left : Nat} {world : World}
    (failed : showsOnlySuccess world.script.testRun.report = false)
    (rest : ∀ patch after, after.events <+:
      (perform (heal coder target tests left patch) after).2.events) :
    (consulted coder tests left code world).events <+:
      (perform (heal coder target tests (left + 1) code) world).2.events := by
  rw [perform_heal_failed failed]
  cases world.script.reply.outcome with
  | error failure => exact List.prefix_rfl
  | ok patch =>
    by_cases valid : (checkSyntax patch).isValid
    · have saved : (consulted coder tests left code world).events <+:
          (patched target patch (consulted coder tests left code world)).events := by
        simp [patched]
      simp only [valid, if_true]
      exact saved.trans (rest patch _)
    · simp only [valid, Bool.false_eq_true, if_false]
      exact rest patch _

theorem heal_extends (coder : Agent) (target tests : String) (left : Nat) (code : String)
    (world : World) :
    world.events <+: (perform (heal coder target tests left code) world).2.events := by
  induction left generalizing code world with
  | zero =>
    simp only [heal, perform_pure]
    exact List.prefix_rfl
  | succ left ih =>
    cases verdict : showsOnlySuccess world.script.testRun.report with
    | true =>
      rw [perform_heal_passed verdict]
      simp [examined]
    | false =>
      have asked : world.events <+: (consulted coder tests left code world).events := by
        simp [consulted, examined]
      exact asked.trans (heal_failed_extends verdict ih)

theorem repair_extends (coder : Agent) (target code : String) (world : World) :
    world.events <+: (perform (repair coder target code) world).2.events := by
  have healed := heal_extends coder target (testPath target) repairLimit code world
  rw [repair, perform_bind]
  revert healed
  rcases perform (heal coder target (testPath target) repairLimit code) world with ⟨outcome, after⟩
  intro healed
  cases outcome with
  | error failure => exact healed
  | ok passed =>
    cases passed with
    | true => simpa only [Bool.not_true, Bool.false_eq_true, if_false, perform_pure] using healed
    | false =>
      simp only [Bool.not_false, if_true, perform_announce]
      exact healed.trans (List.prefix_append ..)

theorem retest_extends (coder examiner : Agent) (target code : String) (world : World) :
    world.events <+: (perform (do
      writeTests examiner (testPath target) code
      repair coder target code) world).2.events := by
  rw [perform_bind, perform_writeTests]
  cases world.script.reply.outcome with
  | error failure => simp [testsAsked]
  | ok tests =>
    have written : world.events <+:
        (testsWritten examiner (testPath target) (testPrompt code) tests world).events := by
      simp [testsWritten, testsAsked]
    exact written.trans (repair_extends ..)

theorem commit_tells_iff (coder examiner : Agent) (target code : String) {world : World}
    {tests : String} (given : world.script.reply.code? = some tests) :
    Tells praise (commit coder examiner target code) world ↔
      Text.contains world.script.testRun.report "passed" = true := by
  -- the repair stage may praise later on, but it only adds to the record
  have goes := retest_extends coder examiner target code
    (judged commitLine examiner target code (testPrompt code) tests world)
  rw [← perform_commit_tests given] at goes
  exact judged_tells_iff goes

theorem heal_tells_iff (coder : Agent) (target tests : String) (left : Nat) (code : String)
    (world : World) :
    Tells praise (heal coder target tests (left + 1) code) world ↔
      showsOnlySuccess world.script.testRun.report = true := by
  have goes : ((examined tests left world).note
      [if showsOnlySuccess world.script.testRun.report then praise
        else .line "❌ Tests Failed. Triggering Self-Healing..."]).events <+:
      (perform (heal coder target tests (left + 1) code) world).2.events := by
    cases verdict : showsOnlySuccess world.script.testRun.report with
    | true =>
      rw [perform_heal_passed verdict]
      simp [praise]
    | false =>
      have asked : ((examined tests left world).note
          [.line "❌ Tests Failed. Triggering Self-Healing..."]).events <+:
          (consulted coder tests left code world).events := by
        simp [consulted]
      exact asked.trans (heal_failed_extends verdict (heal_extends coder target tests left))
  exact tells_iff (.note _ fun _ => rfl) goes alarm_ne_praise

end Guarded

namespace Console

theorem perform_showWith (area : Area) (widget : Widget) (arguments : List Value)
    (settings : List Setting) (world : World) :
    perform (showWith area widget arguments settings) world =
      (.ok (), world.note [.shown area widget arguments settings]) :=
  perform_record ..

def pageText (widget : Widget) (text : String) : Event := .shown .page widget [.text text] []

theorem perform_showText (widget : Widget) (text : String) (world : World) :
    perform (showText .page widget text) world = (.ok (), world.note [pageText widget text]) :=
  perform_showWith ..

def stageHeading (style title line : String) : Event :=
  .shown .page .markdown
    [.text ("<div class='agent-box " ++ style ++ "'>" ++ title ++ "<br>" ++ line ++ "</div>")]
    [.markupAllowed]

theorem perform_showStage (style title line : String) (world : World) :
    perform (showStage style title line) world = (.ok (), world.note [stageHeading style title line]) :=
  perform_showWith ..

def staged (world : World) : World :=
  (world.note [stageHeading "executioner" "🧪 <b>EXECUTIONER AGENT</b>"
    "Generating & Running Regression Tests..."]).enlist tester

def covered (path code tests : String) (world : World) : World :=
  ((staged world).asked (world.nextAgent tester) (testPrompt code)).save (testPath path) tests

def closing (report : String) : List Event :=
  if Text.contains report "passed" then
    [shownPraise, .shown .status .statusUpdate []
      [.label "✅ Refactor Complete & Verified", .state "complete"]]
  else
    [pageText .warning "⚠️ Tests Failed (Self-Healing would trigger here in Prod).",
      pageText .code report, .shown .status .statusUpdate []
        [.label "⚠️ Refactor Complete (Tests Need Review)", .state "complete"]]

theorem perform_examine {path code tests : String} {world : World}
    (given : world.script.reply.code? = some tests) :
    perform (examine path code) world = (.ok (), ((covered path code tests world).tested
      (testPath path)).note (closing world.script.testRun.report)) := by
  have answered : perform ((world.nextAgent tester).ask (testPrompt code)) (staged world) =
      (.ok tests, (staged world).asked (world.nextAgent tester) (testPrompt code)) := by
    simp only [perform_ask, staged, World.enlist_script, World.note_script, Reply.outcome, given]
  unfold examine
  rw [perform_bind_ok (perform_showStage ..), perform_bind_ok (perform_make ..)]
  refine (perform_bind_ok answered _).trans ?_
  rw [perform_bind_ok (perform_saveFile ..), perform_bind_ok (perform_runTests ..)]
  have report : (((staged world).asked (world.nextAgent tester) (testPrompt code)).save (testPath path)
      tests).script.testRun.report = world.script.testRun.report := by
    simp only [World.save_script, World.asked_script, staged, World.enlist_script, World.note_script]
    rfl
  rw [report, closing, covered]
  by_cases verdict : Text.contains world.script.testRun.report "passed"
  · simp only [verdict, if_true, perform_bind, perform_showText, updateStatus, perform_showWith,
      World.note_note, List.singleton_append]
    rfl
  · simp only [verdict, Bool.false_eq_true, if_false, perform_bind, perform_showText, updateStatus,
      perform_showWith, World.note_note, List.cons_append, List.nil_append]

theorem warning_ne_shownPraise :
    pageText .warning "⚠️ Tests Failed (Self-Healing would trigger here in Prod)." ≠ shownPraise := by
  intro same
  injection same with _ widget
  cases widget

theorem examine_tells_iff (path code : String) {world : World} {tests : String}
    (given : world.script.reply.code? = some tests) :
    Tells shownPraise (examine path code) world ↔
      Text.contains world.script.testRun.report "passed" = true := by
  have covering : World.Untested world (covered path code tests world) :=
    .trans (.trans (.trans (.note _ fun _ => rfl) (.enlist ..)) (.asked ..)) (.save ..)
  have goes : (((covered path code tests world).tested (testPath path)).note
      [if Text.contains world.script.testRun.report "passed" then shownPraise
        else pageText .warning "⚠️ Tests Failed (Self-Healing would trigger here in Prod)."]).events <+:
      (perform (examine path code) world).2.events := by
    rw [perform_examine given, closing, World.note_events, World.note_events,
      List.prefix_append_right_inj]
    split
    · exact ⟨[_], rfl⟩
    · exact ⟨[_, _], rfl⟩
  exact tells_iff covering goes warning_ne_shownPraise

end Console

/-! ## Agreement with the exit code -/

/-- The checks of the campaigns agree with the exit code exactly for runs whose words do. The repair
stage also looks for the word for failure; the others do not. -/
theorem checks_follow_exit_code_iff {world : World} {exit : Int} {output errors : String}
    (ran : world.script.testRun = .finished exit output errors) :
    (∀ coder target tests left code,
      (Tells praise (Guarded.heal coder target tests (left + 1) code) world ↔ exit = 0) ↔
        PlainlyTruthful exit output errors) ∧
    ∀ tests, world.script.reply.code? = some tests → ∀ target code,
      (∀ coder examiner,
        (Tells praise (Guarded.commit coder examiner target code) world ↔ exit = 0) ↔
          Truthful exit output errors) ∧
      (∀ examiner, (Tells praise (Single.commit examiner target code) world ↔ exit = 0) ↔
        Truthful exit output errors) ∧
      ((Tells shownPraise (Console.examine target code) world ↔ exit = 0) ↔
        Truthful exit output errors) := by
  have lenient := showsSuccess_iff_zero_iff exit output errors
  have strict := showsOnlySuccess_iff_zero_iff exit output errors
  rw [← ran] at lenient strict
  constructor
  · intro coder target tests left code
    rw [Guarded.heal_tells_iff, strict]
  · intro tests given target code
    refine ⟨fun coder examiner => ?_, fun examiner => ?_, ?_⟩
    · rw [Guarded.commit_tells_iff coder examiner target code given, lenient]
    · rw [Single.commit_tells_iff examiner target code given, lenient]
    · rw [Console.examine_tells_iff target code given, lenient]

def mixedWorld : World := World.start Workspace.Tree.empty { Script.empty with
  replies := [.text "assert True"]
  tests := [.finished 1 "1 failed, 1 passed in 0.02s" ""] }

theorem mixed_run_praised :
    Tells praise (Guarded.commit ⟨refactorer, 0⟩ ⟨tester, 1⟩ "a.py" "x = 1") mixedWorld ∧
      Tells praise (Single.commit ⟨tester, 1⟩ "a.py" "x = 1") mixedWorld ∧
      Tells shownPraise (Console.examine "a.py" "x = 1") mixedWorld ∧
      ¬ Tells praise (Guarded.heal ⟨refactorer, 0⟩ "a.py" "test_a.py" 3 "x = 1") mixedWorld := by
  have ran : mixedWorld.script.testRun = .finished 1 "1 failed, 1 passed in 0.02s" "" := rfl
  have given : mixedWorld.script.reply.code? = some "assert True" := by decide +kernel
  have untrue : ¬ Truthful 1 "1 failed, 1 passed in 0.02s" "" := by
    unfold Truthful
    decide +kernel
  have plain : PlainlyTruthful 1 "1 failed, 1 passed in 0.02s" "" := by
    unfold PlainlyTruthful
    decide +kernel
  -- a check that does not follow the exit code 1 praises
  have praised {told : Prop} (check : (told ↔ (1 : Int) = 0) ↔
      Truthful 1 "1 failed, 1 passed in 0.02s" "") : told := by
    refine Classical.byContradiction fun silent => ?_
    exact untrue (check.mp (iff_of_false silent (by decide)))
  obtain ⟨repair, others⟩ := checks_follow_exit_code_iff ran
  obtain ⟨commit, single, console⟩ := others _ given "a.py" "x = 1"
  refine ⟨praised (commit _ _), praised (single _), praised console, fun told => ?_⟩
  have zero := ((repair ⟨refactorer, 0⟩ "a.py" "test_a.py" 2 "x = 1").mpr plain).mp told
  cases zero

end Refactory.Campaign
