import Refactory.Proofs.Campaign.Retest

/-! What a request for a repair shows.

A round of repair asks with the report of the tests that it has just run and with the last answer of the
round before it. That answer is saved only if it is a program. So a request shows the text that the
target holds, and its tests have seen, exactly if what it shows is a program.
-/

set_option autoImplicit false

namespace Refactory.Campaign.Guarded

open Workspace Analysis

/-! ## Requests -/

def requestOpening : String := "Fix this code based on test failure:\nTests failed:\n"

def IsRequest (message : String) : Prop := requestOpening.toList <+: message.toList

theorem isRequest_repairPrompt (report code : String) : IsRequest (repairPrompt report code) := by
  -- for any texts in place of the fixed ones, which are too long to be taken apart
  have opened (first second third fourth fifth : String) :
      first.toList <+: (first ++ second ++ third ++ fourth ++ fifth).toList := by
    simp only [String.toList_append, List.append_assoc]
    exact List.prefix_append ..
  exact opened ..

/-- The other messages begin with an end of line. -/
theorem not_isRequest_of_head {message : String} (first : message.toList.head? = some '\n') :
    ¬ IsRequest message := by
  rintro ⟨rest, same⟩
  rw [← same] at first
  revert first
  simp [requestOpening]

theorem head?_block (margin : Nat) (lines : List String) :
    (block margin lines).toList.head? = some '\n' := by
  simp [block]

theorem not_isRequest_testPrompt (code : String) : ¬ IsRequest (testPrompt code) :=
  not_isRequest_of_head (head?_block ..)

theorem not_isRequest_promptAfter (constraints old : String) (last : Option Rejection) :
    ¬ IsRequest (promptAfter (prompt constraints old) last) := by
  have first := head?_block 8
  apply not_isRequest_of_head
  cases last with
  | none => exact first _
  | some rejection => simp [promptAfter, prompt, first]

/-- At every request the events before it and its message pass the check. -/
def AtRequests (check : List Event → String → Prop) (events : List Event) : Prop :=
  ∀ before model message after, events = before ++ .sent model message :: after → IsRequest message →
    check before message

def NoRequest (events : List Event) : Prop :=
  ∀ model message, .sent model message ∈ events → ¬ IsRequest message

section AtRequests

variable {check : List Event → String → Prop}

theorem NoRequest.atRequests {events : List Event} (silent : NoRequest events) : AtRequests check events := by
  rintro before model message after rfl request
  exact absurd request (silent model message (List.mem_append_right _ List.mem_cons_self))

/-- A request is among the first events, or comes after all of them. -/
theorem atRequests_append (first second : List Event) :
    AtRequests check (first ++ second) ↔
      AtRequests check first ∧ AtRequests (fun before => check (first ++ before)) second := by
  constructor
  · intro all
    refine ⟨fun before model message after same => ?_, fun before model message after same => ?_⟩
    · exact all before model message (after ++ second) (by simp [same])
    · exact all (first ++ before) model message after (by simp [same])
  · rintro ⟨early, late⟩ before model message after same
    rcases List.append_eq_append_iff.mp same with ⟨between, rfl, rest⟩ | ⟨between, rfl, rest⟩
    · exact late between model message after rest
    · cases between with
      | nil => simpa using late [] model message after rest.symm
      | cons event others =>
        obtain ⟨rfl, rfl⟩ := List.cons.inj rest
        exact early before model message others rfl

theorem atRequests_sent {message : String} (request : IsRequest message) (events : List Event) (model : Nat) :
    AtRequests check (events ++ [.sent model message]) ↔ AtRequests check events ∧ check events message := by
  rw [atRequests_append]
  refine and_congr_right fun _ => ⟨fun all => ?_, ?_⟩
  · simpa using all [] model message [] rfl request
  · intro passed before number other after same _
    rcases List.append_eq_singleton_iff.mp same.symm with ⟨rfl, sent⟩ | ⟨_, impossible⟩
    · cases sent
      simpa using passed
    · cases impossible

end AtRequests

/-! ## Stretches without a request -/

def lastReport (script : Script) (events : List Event) : String :=
  ((script.tests.drop (testRuns events - 1)).headD (.failed "no scripted tests")).report

def isAside : Event → Bool
  | .sent _ _ => false
  | .testsRun _ => false
  | _ => true

theorem not_isTestRun_of_isAside {event : Event} (aside : isAside event = true) : ¬ event.isTestRun = true := by
  cases event with
  | testsRun command => cases aside
  | _ => exact Bool.false_ne_true

/-- Between two worlds no repair was asked for, and the runs of the tests were taken in turn. -/
def Proceeds (before after : World) : Prop :=
  ∃ events, after.events = before.events ++ events ∧ NoRequest events ∧
    after.script.tests = before.script.tests.drop (testRuns events)

namespace Proceeds

theorem refl (world : World) : Proceeds world world :=
  ⟨[], by simp, nofun, rfl⟩

theorem trans {first second third : World} (left : Proceeds first second) (right : Proceeds second third) :
    Proceeds first third := by
  obtain ⟨earlier, record, silent, tests⟩ := left
  obtain ⟨later, record', silent', tests'⟩ := right
  refine ⟨earlier ++ later, ?_, ?_, ?_⟩
  · rw [record', record, List.append_assoc]
  · intro model message member
    exact (List.mem_append.mp member).elim (silent model message) (silent' model message)
  · rw [tests', tests, List.drop_drop, testRuns_append]

theorem note {events : List Event} (aside : events.all isAside = true) (world : World) :
    Proceeds world (world.note events) := by
  rw [List.all_eq_true] at aside
  refine ⟨events, rfl, fun model message member => ?_, ?_⟩
  · cases aside _ member
  · have untested : testRuns events = 0 :=
      List.countP_eq_zero.mpr fun event member => not_isTestRun_of_isAside (aside event member)
    rw [untested, List.drop_zero, World.note_script]

theorem asked (world : World) (agent : Agent) {message : String} (other : ¬ IsRequest message) :
    Proceeds world (world.asked agent message) := by
  refine ⟨[.sent agent.model message], rfl, fun model text member => ?_, rfl⟩
  cases List.mem_singleton.mp member
  exact other

theorem tested (world : World) (path : String) : Proceeds world (world.tested path) :=
  ⟨[.testsRun (testCommand path)], rfl, by simp [NoRequest], List.drop_one.symm⟩

theorem save (world : World) (path text : String) : Proceeds world (world.save path text) :=
  ⟨[.saved path text], rfl, by simp [NoRequest], rfl⟩

theorem enlist (world : World) (profile : Profile) : Proceeds world (world.enlist profile) :=
  ⟨[.modelMade defaultModel profile.instruction], rfl, by simp [NoRequest], rfl⟩

theorem allowsCopying : AllowsCopying Proceeds where
  refl := refl
  trans := trans
  note copying world := note (by cases copying <;> rfl) world
  withTree _ _ _ := ⟨[], by simp, nofun, rfl⟩

theorem atRequests_iff {check : List Event → String → Prop} {before after : World}
    (proceeds : Proceeds before after) : AtRequests check after.events ↔ AtRequests check before.events := by
  obtain ⟨events, record, silent, _⟩ := proceeds
  rw [record, atRequests_append]
  exact and_iff_left silent.atRequests

end Proceeds

/-- The runs of the tests that are left are those of the script after the ones that were taken. -/
def InStep (script : Script) (world : World) : Prop :=
  world.script.tests = script.tests.drop (testRuns world.events)

theorem InStep.proceed {script : Script} {before after : World} (step : InStep script before)
    (proceeds : Proceeds before after) : InStep script after := by
  obtain ⟨events, record, _, tests⟩ := proceeds
  rw [InStep, tests, step, List.drop_drop, record, testRuns_append]

theorem InStep.asked {script : Script} {world : World} (step : InStep script world) (agent : Agent)
    (message : String) : InStep script (world.asked agent message) := by
  rw [InStep, World.asked_events, testRuns_append]
  exact step

/-! ## The repair stage -/

/-- What may be shown after these events: the last text for the target, which is a program, or something
that is none. -/
def Shown (target : String) (events : List Event) (code : String) : Prop :=
  ∃ saved, (textsFor target events).getLast? = some saved ∧ (checkSyntax saved).isValid = true ∧
    (code = saved ↔ (checkSyntax code).isValid = true)

theorem Shown.of_texts {target code : String} {before after : List Event} (shown : Shown target before code)
    (same : textsFor target after = textsFor target before) : Shown target after code := by
  rwa [Shown, same]

/-- A program that has just been saved is shown as it is. -/
theorem shown_of_saved {target code : String} {events : List Event}
    (valid : (checkSyntax code).isValid = true) (last : (textsFor target events).getLast? = some code) :
    Shown target events code :=
  ⟨code, last, valid, iff_of_true rfl valid⟩

/-- Something that is no program is shown although another text has been saved. -/
theorem Shown.of_invalid {target code patch : String} {events : List Event}
    (shown : Shown target events code) (invalid : ¬ (checkSyntax patch).isValid = true) :
    Shown target events patch := by
  obtain ⟨saved, last, valid, _⟩ := shown
  refine ⟨saved, last, valid, iff_of_false ?_ invalid⟩
  rintro rfl
  exact invalid valid

/-- A round of repair can begin with this code. -/
structure Ready (script : Script) (target code : String) (world : World) : Prop where
  step : InStep script world
  shown : Shown target world.events code

def failing (tests : String) (left : Nat) (world : World) : World :=
  (examined tests left world).note [.line "❌ Tests Failed. Triggering Self-Healing..."]

theorem examined_proceeds (tests : String) (left : Nat) (world : World) :
    Proceeds world (examined tests left world) :=
  .trans (.note rfl world) (.tested ..)

theorem failing_proceeds (tests : String) (left : Nat) (world : World) :
    Proceeds world (failing tests left world) :=
  (examined_proceeds tests left world).trans (.note rfl _)

theorem textsFor_failing (target tests : String) (left : Nat) (world : World) :
    textsFor target (failing tests left world).events = textsFor target world.events := by
  simp [failing, examined]

theorem answered_proceeds (agent : Agent) (target tests : String) (left : Nat) (code patch : String)
    (world : World) : Proceeds (consulted agent tests left code world)
      (answered agent target tests left code patch world) := by
  unfold answered
  split
  · exact .trans (.save ..) (.note rfl _)
  · exact .refl _

section Round

variable {script : Script} {target code : String} {world : World}

/-- A round asks with the report of its own tests. -/
theorem lastReport_failing (step : InStep script world) (tests : String) (left : Nat) :
    lastReport script (failing tests left world).events = world.script.testRun.report := by
  have runs : testRuns (failing tests left world).events = testRuns world.events + 1 := by
    simp only [failing, examined, World.note_events, World.tested_events, testRuns_append]
    rfl
  rw [lastReport, runs, Nat.add_sub_cancel, ← step]
  rfl

theorem atRequests_consulted {check : List Event → String → Prop} (agent : Agent) (tests : String)
    (left : Nat) : AtRequests check (consulted agent tests left code world).events ↔
      AtRequests check world.events ∧
        check (failing tests left world).events (repairPrompt world.script.testRun.report code) := by
  rw [← (failing_proceeds tests left world).atRequests_iff]
  exact atRequests_sent (isRequest_repairPrompt ..) ..

/-- The next round can begin with the answer, whether or not it has been saved. -/
theorem Ready.answered (ready : Ready script target code world) (agent : Agent) (tests : String)
    (left : Nat) (patch : String) :
    Ready script target patch (answered agent target tests left code patch world) := by
  have step : InStep script (consulted agent tests left code world) :=
    (ready.step.proceed (failing_proceeds tests left world)).asked ..
  refine ⟨step.proceed (answered_proceeds ..), ?_⟩
  unfold Guarded.answered
  split
  · next valid => exact shown_of_saved valid (by simp [patched])
  · next invalid => exact (ready.shown.of_invalid invalid).of_texts (textsFor_consulted ..)

end Round

/-- What so many rounds of repair show: the code with which they begin, and after it the answers, up to the
first run of the tests that passes. An empty reply ends the stage. -/
def shownCodes : Nat → Script → String → List String
  | 0, _, _ => []
  | left + 1, script, code =>
      if showsOnlySuccess script.testRun.report then []
      else code :: match script.reply.code? with
        | none => []
        | some patch => shownCodes left script.afterTestRun.afterReply patch

section Requests

-- The check of a request comes down to a question about the code that it shows.
variable {check : List Event → String → Prop} {holds : String → Prop} {script : Script} {target : String}
  (decides : ∀ before code, Shown target before code →
    (check before (repairPrompt (lastReport script before) code) ↔ holds code))

include decides

theorem consulted_atRequests {code : String} {world : World} (ready : Ready script target code world)
    (agent : Agent) (tests : String) (left : Nat) :
    AtRequests check (consulted agent tests left code world).events ↔
      AtRequests check world.events ∧ holds code := by
  rw [atRequests_consulted, ← lastReport_failing ready.step tests left,
    decides _ code (ready.shown.of_texts (textsFor_failing ..))]

/-- The requests of the repair stage pass the check exactly if all that is shown does. -/
theorem heal_atRequests (agent : Agent) (tests : String) (left : Nat) {code : String} {world : World}
    (ready : Ready script target code world) :
    AtRequests check (perform (heal agent target tests left code) world).2.events ↔
      AtRequests check world.events ∧ ∀ shown ∈ shownCodes left world.script code, holds shown := by
  -- a round that fails makes one request, with the code that it was given
  induction left generalizing code world with
  | zero => simp [heal, perform_pure, shownCodes]
  | succ left ih =>
    unfold shownCodes
    cases verdict : showsOnlySuccess world.script.testRun.report with
    | true =>
      have proceeds := (examined_proceeds tests left world).trans (.note (rfl : List.all
        [.line "🎉 SUCCESS: Refactor verified clean.", .logged ("SUCCESS: " ++ target)] isAside = true) _)
      rw [perform_heal_passed verdict, proceeds.atRequests_iff]
      simp
    | false =>
      have asked := consulted_atRequests decides ready agent tests left
      cases given : world.script.reply.code? with
      | none =>
        rw [perform_heal_failed verdict, Reply.outcome, given]
        simp [asked]
      | some patch =>
        rw [perform_heal_answered verdict given, ih (ready.answered agent tests left patch),
          (answered_proceeds ..).atRequests_iff, asked, answered_script]
        simp [and_assoc]

end Requests

/-! ## The whole campaign -/

theorem testsAsked_proceeds (agent : Agent) (code : String) (world : World) :
    Proceeds world (testsAsked agent (testPrompt code) world) :=
  .trans (.note rfl world) (.asked _ agent (not_isRequest_testPrompt code))

theorem testsWritten_proceeds (agent : Agent) (path code tests : String) (world : World) :
    Proceeds world (testsWritten agent path (testPrompt code) tests world) :=
  ((testsAsked_proceeds agent code world).trans (.save ..)).trans (.note rfl _)

theorem committed_proceeds (line target code : String) (world : World) :
    Proceeds world (committed line target code world) :=
  .trans (.save ..) (.note rfl _)

theorem judged_proceeds (line : String) (examiner : Agent) (target code tests : String) (world : World) :
    Proceeds world (judged line examiner target code (testPrompt code) tests world) := by
  have aside (report : String) : (verdictLines target report).all isAside = true := by
    unfold verdictLines
    split <;> rfl
  have written := (committed_proceeds line target code world).trans
    (testsWritten_proceeds examiner (testPath target) code tests _)
  exact written.trans (.trans (.trans (.note rfl _) (.tested ..)) (.note (aside _) _))

theorem repair_proceeds (coder : Agent) (target code : String) (world : World) :
    Proceeds (perform (heal coder target (testPath target) repairLimit code) world).2
      (perform (repair coder target code) world).2 := by
  obtain ⟨text, ended | ended⟩ := perform_repair coder target code world
  · rw [ended]
    exact .refl _
  · rw [ended]
    exact .note rfl _

def shownAfterCommit (code : String) (script : Script) : List String :=
  match script.reply.code?, script.afterReply.reply.code? with
  | some _, some _ => shownCodes repairLimit script.afterReply.afterTestRun.afterReply code
  | _, _ => []

def shownBy (old : String) (script : Script) : List String :=
  match fitCode old attemptLimit script with
  | none => []
  | some (code, rest) => shownAfterCommit code rest

theorem refactor_proceeds (agent : Agent) (old : String) {first : String}
    (other : ∀ last, ¬ IsRequest (promptAfter first last)) (left : Nat) (last : Option Rejection)
    (world : World) : Proceeds world (perform (refactor agent old first left last) world).2 := by
  induction left generalizing last world with
  | zero =>
    rw [refactor, perform_pure]
    exact .refl world
  | succ left ih =>
    have asked : Proceeds world (attempted agent first left last world) :=
      .trans (.note rfl world) (.asked _ agent (other last))
    cases given : world.script.reply.code? with
    | none => rwa [perform_refactor_empty given]
    | some code =>
      cases verdict : judge old code with
      | none => rwa [perform_refactor_fit given verdict]
      | some rejection =>
        rw [perform_refactor_rejected given verdict]
        exact (asked.trans (.note rfl _)).trans (ih (some rejection) _)

theorem surveyLines_aside (tree : Tree) : (surveyLines tree).all isAside = true := by
  simp [surveyLines, Event.line, isAside]

theorem proposed_proceeds (target : String) (copy : World) : Proceeds copy (proposed target copy) := by
  have surveyed : Proceeds copy (copy.note (surveyLines copy.tree)) := .note (surveyLines_aside _) copy
  have staged : Proceeds (copy.note (surveyLines copy.tree)) (begun target copy) :=
    ((Proceeds.note rfl _).trans (.enlist ..)).trans (.enlist ..)
  exact (surveyed.trans staged).trans
    (refactor_proceeds _ _ (not_isRequest_promptAfter _ _) attemptLimit none (begun target copy))

theorem campaign_proceeds {world : World}
    (untouched : ∀ copy, Copied opening world copy → target? copy.tree = none) :
    Proceeds world (perform campaign world).2 := by
  rcases copied_or_failed opening world with ⟨copy, copied⟩ | ⟨failure, after, failed⟩
  · rw [perform_campaign copied, untouched copy copied, perform_announce]
    exact ((Proceeds.allowsCopying.opened copied).trans (.note (surveyLines_aside _) copy)).trans
      (.note rfl _)
  · have ended : perform campaign world = (.error failure, after) := perform_bind_of_uncopied failed _
    rw [ended]
    exact Proceeds.allowsCopying.opened failed

section Campaign

variable {check : List Event → String → Prop} {holds : String → Prop} {script : Script} {target : String}
  (decides : ∀ before code, Shown target before code →
    (check before (repairPrompt (lastReport script before) code) ↔ holds code))

include decides

theorem commit_atRequests (coder examiner : Agent) (apart : testPath target ≠ target) {code : String}
    (valid : (checkSyntax code).isValid = true) {world : World} (step : InStep script world) :
    AtRequests check (perform (commit coder examiner target code) world).2.events ↔
      AtRequests check world.events ∧ ∀ shown ∈ shownAfterCommit code world.script, holds shown := by
  unfold shownAfterCommit
  cases first : world.script.reply.code? with
  | none =>
    have proceeds := (committed_proceeds commitLine target code world).trans
      (testsAsked_proceeds examiner code _)
    rw [perform_commit_empty first, proceeds.atRequests_iff]
    simp
  | some tests =>
    have proceeds := judged_proceeds commitLine examiner target code tests world
    cases second : world.script.afterReply.reply.code? with
    | none =>
      rw [perform_commit_once first second, (proceeds.trans (testsAsked_proceeds examiner code _)).atRequests_iff]
      simp
    | some others =>
      have written := proceeds.trans (testsWritten_proceeds examiner (testPath target) code others _)
      have ready : Ready script target code (testsWritten examiner (testPath target) (testPrompt code) others
          (judged commitLine examiner target code (testPrompt code) tests world)) := by
        refine ⟨step.proceed written, shown_of_saved valid ?_⟩
        rw [textsFor_testsWritten apart, textsFor_judged apart, List.getLast?_concat]
      rw [perform_commit_twice first second, (repair_proceeds ..).atRequests_iff,
        heal_atRequests decides coder _ repairLimit ready, written.atRequests_iff, testsWritten_script,
        judged_script]

/-- The requests of the campaign pass the check exactly if all that they show does. -/
theorem campaign_atRequests {tree : Tree} {copy : World}
    (copied : Copied opening (World.start tree script) copy) (chosen : target? copy.tree = some target) :
    AtRequests check (perform campaign (World.start tree script)).2.events ↔
      ∀ shown ∈ shownBy (readOrExplain copy.tree target) script, holds shown := by
  have apart := testPath_ne (endsWith_of_mem_sourceFiles (mem_sourceFiles_of_target chosen))
  have proceeds := (Proceeds.allowsCopying.opened copied).trans (proposed_proceeds target copy)
  have empty : AtRequests check (World.start tree script).events := NoRequest.atRequests nofun
  unfold shownBy
  cases found : fitCode (readOrExplain copy.tree target) attemptLimit script with
  | none =>
    have quiet : Proceeds (World.start tree script) (perform campaign (World.start tree script)).2 := by
      rcases perform_campaign_unfit copied chosen found with ended | ⟨text, ended⟩
      · rwa [ended]
      · rw [ended]
        exact proceeds.trans (.note rfl _)
    simp [quiet.atRequests_iff, empty]
  | some fit =>
    obtain ⟨code, rest⟩ := fit
    obtain ⟨answers, coder, examiner, done⟩ := perform_campaign_commit copied chosen found
    have valid := ((judge_eq_none_iff _ code).mp (judge_of_fitCode found)).1
    have step : InStep script (World.start tree script) := rfl
    rw [done, commit_atRequests decides coder examiner apart valid (step.proceed proceeds), answers,
      proceeds.atRequests_iff]
    exact and_iff_right empty

end Campaign

/-- Every request asks with the report of the last tests. -/
theorem campaign_requests_shown {tree : Tree} {script : Script} {copy : World} {target : String}
    (copied : Copied opening (World.start tree script) copy) (chosen : target? copy.tree = some target) :
    AtRequests (fun before message => ∃ code, message = repairPrompt (lastReport script before) code ∧
      Shown target before code) (perform campaign (World.start tree script)).2.events := by
  have decides (before : List Event) (code : String) (shown : Shown target before code) :
      (∃ other, repairPrompt (lastReport script before) code = repairPrompt (lastReport script before) other ∧
        Shown target before other) ↔ True :=
    iff_true_intro ⟨code, rfl, shown⟩
  exact (campaign_atRequests decides copied chosen).mpr fun _ _ => trivial

theorem repairPrompt_inj {report code other : String} :
    repairPrompt report code = repairPrompt report other ↔ code = other := by
  have cancelled (first second third fourth : String) :
      first ++ second ++ third ++ code ++ fourth = first ++ second ++ third ++ other ++ fourth ↔
        code = other := by
    simp only [← String.toList_inj, String.toList_append, List.append_cancel_right_eq,
      List.append_cancel_left_eq]
  exact cancelled ..

def ShowsSaved (script : Script) (target : String) (before : List Event) (message : String) : Prop :=
  ∃ saved, (textsFor target before).getLast? = some saved ∧
    message = repairPrompt (lastReport script before) saved

theorem showsSaved_iff {script : Script} {target code : String} {before : List Event}
    (shown : Shown target before code) :
    ShowsSaved script target before (repairPrompt (lastReport script before) code) ↔
      (checkSyntax code).isValid = true := by
  obtain ⟨saved, last, _, same⟩ := shown
  unfold ShowsSaved
  constructor
  · rintro ⟨text, found, shows⟩
    rw [last] at found
    cases found
    exact same.mp (repairPrompt_inj.mp shows)
  · intro valid
    exact ⟨saved, last, by rw [same.mpr valid]⟩

/-- Every request for a repair shows the report of the last tests, and code that is the last text saved for
the target exactly if it is a program. So all of them show what has been saved exactly if no answer that is
no program is followed by tests that fail. -/
theorem requests_show_saved_iff (tree : Tree) (script : Script) :
    AtRequests (fun before message => ∃ copy target code saved,
        Copied opening (World.start tree script) copy ∧ target? copy.tree = some target ∧
        message = repairPrompt (lastReport script before) code ∧
        (textsFor target before).getLast? = some saved ∧
        (code = saved ↔ (checkSyntax code).isValid = true))
      (perform campaign (World.start tree script)).2.events ∧
    ∀ copy target, Copied opening (World.start tree script) copy → target? copy.tree = some target →
      (AtRequests (ShowsSaved script target) (perform campaign (World.start tree script)).2.events ↔
        ∀ code ∈ shownBy (readOrExplain copy.tree target) script, (checkSyntax code).isValid = true) := by
  constructor
  · by_cases touched : ∃ copy target, Copied opening (World.start tree script) copy ∧
        target? copy.tree = some target
    · obtain ⟨copy, target, copied, chosen⟩ := touched
      intro before model message after same request
      obtain ⟨code, shows, saved, last, _, current⟩ :=
        campaign_requests_shown copied chosen before model message after same request
      exact ⟨copy, target, code, saved, copied, chosen, shows, last, current⟩
    · -- nothing is asked at all
      have untouched (copy : World) (copied : Copied opening (World.start tree script) copy) :
          target? copy.tree = none :=
        Option.eq_none_iff_forall_ne_some.mpr fun target chosen => touched ⟨copy, target, copied, chosen⟩
      rw [(campaign_proceeds untouched).atRequests_iff]
      exact NoRequest.atRequests nofun
  · intro copy target copied chosen
    exact campaign_atRequests (fun before code shown => showsSaved_iff shown) copied chosen

/-! ## An answer that is no program -/

theorem stubborn_shown {old code : String} (tests first second third : String)
    (fit : judge old (codeOf code) = none) :
    shownBy old (ratedWith (stubbornReplies code tests first second third) stubbornTests) =
      [codeOf code, codeOf first, codeOf second] := by
  have given (text : String) : (Reply.text text).code? = some (codeOf text) := rfl
  simp only [shownBy, ratedWith, stubbornReplies, stubbornTests, attemptLimit, fitCode, Script.reply,
    List.headD_cons, given, fit, shownAfterCommit, Script.afterReply, Script.afterTestRun,
    List.tail_cons, repairLimit, shownCodes, Script.testRun, List.replicate, failed_run_shown]
  simp

def brokenReplies : List Reply := stubbornReplies ratedCode "assert True" "def" "x = 2" "x = 3"

theorem broken_shown : "def" ∈ shownBy (readOrExplain (ratedCopyWith brokenReplies stubbornTests).tree
    ratedPath) (ratedWith brokenReplies stubbornTests) := by
  have fit : judge (String.ofList ratedChars) (codeOf ratedCode) = none := by
    rw [ratedCode_keeps.1, ratedCode_fits]
  have kept : codeOf "def" = "def" := by decide
  rw [ratedCopyWith_text, brokenReplies, stubborn_shown _ _ _ _ fit, kept]
  exact List.mem_cons_of_mem _ List.mem_cons_self

theorem broken_repair_shown :
    Copied opening (World.start Tree.empty (ratedWith brokenReplies stubbornTests))
        (ratedCopyWith brokenReplies stubbornTests) ∧
      target? (ratedCopyWith brokenReplies stubbornTests).tree = some ratedPath ∧
      ¬ AtRequests (ShowsSaved (ratedWith brokenReplies stubbornTests) ratedPath)
        (perform campaign (World.start Tree.empty (ratedWith brokenReplies stubbornTests))).2.events := by
  have copied := ratedCopyWith_copied brokenReplies stubbornTests
  have chosen := ratedCopyWith_target brokenReplies stubbornTests
  have shown := (requests_show_saved_iff Tree.empty (ratedWith brokenReplies stubbornTests)).2
    (ratedCopyWith brokenReplies stubbornTests) ratedPath copied chosen
  have broken : (checkSyntax "def").isValid = false := by decide
  refine ⟨copied, chosen, fun all => ?_⟩
  exact Bool.false_ne_true (broken.symm.trans (shown.mp all "def" broken_shown))

end Refactory.Campaign.Guarded
