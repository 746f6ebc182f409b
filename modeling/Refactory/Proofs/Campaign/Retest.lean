import Refactory.Proofs.Campaign.Replay

/-! Which of the texts for a target its tests have seen.

Every round of repair begins with a run of the tests, so a patch is tested by the round after it. The
last round has none after it: what it saves stays on disk untested.
-/

set_option autoImplicit false

namespace Refactory.Campaign.Guarded

open Workspace Analysis

/-! ## The repair stage -/

/-- The patch that the last of so many rounds saves: all of their tests fail, and the last reply is a
program. -/
def lastPatch? : Nat → Script → Option String
  | 0, _ => none
  | left + 1, script =>
      if showsOnlySuccess script.testRun.report then none
      else match script.reply.code? with
        | none => none
        | some patch =>
            if left = 0 then if (checkSyntax patch).isValid then some patch else none
            else lastPatch? left script.afterTestRun.afterReply

theorem lastPatch?_answered {script : Script} {patch : String} (left : Nat)
    (failed : showsOnlySuccess script.testRun.report = false)
    (given : script.reply.code? = some patch) :
    lastPatch? (left + 2) script = lastPatch? (left + 1) script.afterTestRun.afterReply := by
  rw [lastPatch?, failed, given]
  rfl

/-- Between two worlds the tests were run, and after their last run only this was saved. -/
def LastTested (target tests : String) (unseen : Option String) (before after : World) : Prop :=
  ∃ earlier later, World.Leads before (earlier ++ .testsRun (testCommand tests) :: later) after ∧
    (∀ command, .testsRun command ∉ later) ∧ savesOf later = (unseen.map (target, ·)).toList

theorem LastTested.of_leads {target tests : String} {unseen : Option String} {first second third : World}
    {events : List Event} (begun : World.Leads first events second)
    (ended : LastTested target tests unseen second third) :
    LastTested target tests unseen first third := by
  obtain ⟨earlier, later, leads, testless, saves⟩ := ended
  refine ⟨events ++ earlier, later, ?_, testless, saves⟩
  rw [List.append_assoc]
  exact begun.trans leads

theorem LastTested.extend {target tests : String} {unseen : Option String} {first second third : World}
    {events : List Event} (begun : LastTested target tests unseen first second)
    (leads : World.Leads second events third) (silent : savesOf events = [])
    (untested : ∀ command, .testsRun command ∉ events) :
    LastTested target tests unseen first third := by
  obtain ⟨earlier, later, led, testless, saves⟩ := begun
  refine ⟨earlier, later ++ events, ?_, ?_, ?_⟩
  · rw [← List.cons_append, ← List.append_assoc]
    exact led.trans leads
  · intro command member
    exact (List.mem_append.mp member).elim (testless command) (untested command)
  · rw [savesOf_append, saves, silent, List.append_nil]

theorem examined_leads (tests : String) (left : Nat) (world : World) :
    World.Leads world (Event.heading "Executioner"
        ("Running Validation (Attempt " ++ toString (repairLimit - left) ++ ")...") ++
      [.testsRun (testCommand tests)]) (examined tests left world) :=
  (World.Leads.note world rfl).trans (.tested ..)

theorem LastTested.of_examined {target tests : String} {left : Nat} {unseen : Option String}
    {world after : World} {later : List Event}
    (leads : World.Leads (examined tests left world) later after)
    (testless : ∀ command, .testsRun command ∉ later)
    (saves : savesOf later = (unseen.map (target, ·)).toList) :
    LastTested target tests unseen world after := by
  have begun := (examined_leads tests left world).trans leads
  rw [List.append_assoc] at begun
  exact ⟨_, later, begun, testless, saves⟩

theorem consulted_leads (agent : Agent) (tests : String) (left : Nat) (code : String) (world : World) :
    World.Leads (examined tests left world)
      [.line "❌ Tests Failed. Triggering Self-Healing...",
        .sent agent.model (repairPrompt world.script.testRun.report code)]
      (consulted agent tests left code world) := by
  have noted := World.Leads.note (examined tests left world)
    (rfl : savesOf [.line "❌ Tests Failed. Triggering Self-Healing..."] = [])
  exact noted.trans (.asked ..)

theorem patched_leads (target patch : String) (world : World) :
    World.Leads world [.saved target patch, .line "🩹 Patch applied. Retrying tests..."]
      (patched target patch world) :=
  (World.Leads.save world target patch).trans (.note _ rfl)

def answered (agent : Agent) (target tests : String) (left : Nat) (code patch : String) (world : World) :
    World :=
  if (checkSyntax patch).isValid then patched target patch (consulted agent tests left code world)
  else consulted agent tests left code world

theorem answered_leads (agent : Agent) (target tests : String) (left : Nat) (code patch : String)
    (world : World) : ∃ later,
      World.Leads (examined tests left world) later (answered agent target tests left code patch world) ∧
      (∀ command, .testsRun command ∉ later) ∧
      savesOf later = if (checkSyntax patch).isValid then [(target, patch)] else [] := by
  have asked := consulted_leads agent tests left code world
  unfold answered
  split
  · exact ⟨_, asked.trans (patched_leads target patch _), by simp [Event.line], rfl⟩
  · exact ⟨_, asked, by simp [Event.line], rfl⟩

theorem answered_follows (agent : Agent) (target tests : String) (left : Nat) (code patch : String)
    (world : World) :
    ∃ events, World.Leads world events (answered agent target tests left code patch world) := by
  obtain ⟨later, leads, _⟩ := answered_leads agent target tests left code patch world
  exact ⟨_, .trans (examined_leads tests left world) leads⟩

theorem answered_script (agent : Agent) (target tests : String) (left : Nat) (code patch : String)
    (world : World) :
    (answered agent target tests left code patch world).script = world.script.afterTestRun.afterReply := by
  unfold answered
  split
  · simp [patched, consulted_script]
  · exact consulted_script ..

theorem perform_heal_answered {agent : Agent} {target tests code patch : String} {left : Nat}
    {world : World} (failed : showsOnlySuccess world.script.testRun.report = false)
    (given : world.script.reply.code? = some patch) :
    perform (heal agent target tests (left + 1) code) world =
      perform (heal agent target tests left patch)
        (answered agent target tests left code patch world) := by
  simp only [perform_heal_failed failed, Reply.outcome, given, answered]
  split <;> rfl

/-- A round is the last one, or it fails and is given a patch. -/
theorem stops_or_answered (script : Script) :
    (showsOnlySuccess script.testRun.report = true ∨ script.reply.code? = none) ∨
      ∃ patch, showsOnlySuccess script.testRun.report = false ∧ script.reply.code? = some patch := by
  cases verdict : showsOnlySuccess script.testRun.report with
  | true => exact .inl (.inl rfl)
  | false =>
    cases given : script.reply.code? with
    | none => exact .inl (.inr rfl)
    | some patch => exact .inr ⟨patch, rfl, rfl⟩

theorem heal_lastTested_of_stop {world : World} {left : Nat} (agent : Agent) (target tests code : String)
    (stop : showsOnlySuccess world.script.testRun.report = true ∨ world.script.reply.code? = none) :
    LastTested target tests (lastPatch? (left + 1) world.script) world
      (perform (heal agent target tests (left + 1) code) world).2 := by
  unfold lastPatch?
  cases verdict : showsOnlySuccess world.script.testRun.report with
  | true =>
    rw [perform_heal_passed verdict]
    exact .of_examined (.note _ rfl) (by simp [Event.line]) rfl
  | false =>
    have empty := stop.resolve_left (by simp [verdict])
    rw [perform_heal_failed verdict, Reply.outcome, empty]
    exact .of_examined (consulted_leads ..) (by simp [Event.line]) rfl

/-- With rounds to go, the repair stage ends with a run of the tests and the patch of its last round. -/
theorem heal_lastTested (agent : Agent) (target tests : String) (left : Nat) (code : String)
    (world : World) :
    LastTested target tests (lastPatch? (left + 1) world.script) world
      (perform (heal agent target tests (left + 1) code) world).2 := by
  induction left generalizing code world with
  | zero =>
    rcases stops_or_answered world.script with stop | ⟨patch, failed, given⟩
    · exact heal_lastTested_of_stop agent target tests code stop
    · obtain ⟨later, leads, testless, saves⟩ := answered_leads agent target tests 0 code patch world
      rw [perform_heal_answered failed given, heal, perform_pure]
      refine .of_examined leads testless ?_
      simp only [saves, lastPatch?, failed, given, Bool.false_eq_true, if_false, if_true]
      split <;> rfl
  | succ left ih =>
    rcases stops_or_answered world.script with stop | ⟨patch, failed, given⟩
    · exact heal_lastTested_of_stop agent target tests code stop
    · -- the next round runs the tests again, so this one does not count
      have rest := ih patch (answered agent target tests (left + 1) code patch world)
      rw [answered_script] at rest
      rw [perform_heal_answered failed given, lastPatch?_answered left failed given]
      obtain ⟨events, leads⟩ := answered_follows agent target tests (left + 1) code patch world
      exact .of_leads leads rest

/-! ## The whole campaign -/

def unseenAfterCommit (script : Script) : Option String :=
  match script.reply.code?, script.afterReply.reply.code? with
  | some _, some _ => lastPatch? repairLimit script.afterReply.afterTestRun.afterReply
  | _, _ => none

/-- The patch that no tests have seen, by the replies and the runs of the tests. -/
def unseenPatch? (old : String) (script : Script) : Option String :=
  match fitCode old attemptLimit script with
  | none => none
  | some (_, rest) => unseenAfterCommit rest

theorem repair_lastTested (coder : Agent) (target code : String) (world : World) :
    LastTested target (testPath target) (lastPatch? repairLimit world.script) world
      (perform (repair coder target code) world).2 := by
  have healed : LastTested target (testPath target) (lastPatch? repairLimit world.script) world
      (perform (heal coder target (testPath target) repairLimit code) world).2 :=
    heal_lastTested coder target (testPath target) 2 code world
  obtain ⟨text, ended | ended⟩ := perform_repair coder target code world
  · rwa [ended]
  · have silent : savesOf [.line text] = [] := rfl
    rw [ended]
    exact healed.extend (.note _ silent) silent (by simp [Event.line])

theorem testsAsked_leads (agent : Agent) (message : String) (world : World) :
    World.Leads world
      (Event.heading "Executioner" "Generating Regression Tests..." ++ [.sent agent.model message])
      (testsAsked agent message world) :=
  (World.Leads.note world rfl).trans (.asked ..)

theorem testsWritten_leads (agent : Agent) (path message tests : String) (world : World) :
    ∃ events, World.Leads world events (testsWritten agent path message tests world) :=
  ⟨_, ((testsAsked_leads agent message world).trans (.save ..)).trans
    (.note _ (rfl : savesOf [.line ("✔ Tests saved to " ++ Path.fileName path)] = []))⟩

theorem reported_lastTested (target tests : String) (world : World) :
    LastTested target tests none world (reported target tests world) := by
  have begun := (World.Leads.note world (rfl : savesOf (Event.heading "Executioner"
    "Running Validation...") = [])).trans (.tested _ tests)
  have silent : savesOf (verdictLines target world.script.testRun.report) = [] := by
    unfold verdictLines
    split <;> rfl
  have tested : LastTested target tests none world
      ((world.note (Event.heading "Executioner" "Running Validation...")).tested tests) :=
    ⟨_, [], begun, by simp, rfl⟩
  refine tested.extend (.note _ silent) silent ?_
  unfold verdictLines
  split <;> simp [Event.line]

/-- A commit that gets tests ends with a run of them, and with the patch that they have not seen. -/
theorem commit_lastTested (coder examiner : Agent) (target code : String) {tests : String} {world : World}
    (given : world.script.reply.code? = some tests) :
    LastTested target (testPath target) (unseenAfterCommit world.script)
      (committed commitLine target code world) (perform (commit coder examiner target code) world).2 := by
  obtain ⟨writing, written⟩ := testsWritten_leads examiner (testPath target) (testPrompt code) tests
    (committed commitLine target code world)
  have first : LastTested target (testPath target) none (committed commitLine target code world)
      (judged commitLine examiner target code (testPrompt code) tests world) :=
    .of_leads written (reported_lastTested ..)
  rw [unseenAfterCommit, given]
  cases second : world.script.afterReply.reply.code? with
  | none =>
    rw [perform_commit_once given second]
    exact first.extend (testsAsked_leads ..) rfl (by simp [Event.heading, Event.line])
  | some others =>
    -- tests are written again, and the repair stage begins with a run of them
    obtain ⟨earlier, later, judging, _⟩ := first
    obtain ⟨events, writing⟩ := testsWritten_leads examiner (testPath target) (testPrompt code) others
      (judged commitLine examiner target code (testPrompt code) tests world)
    have repaired := repair_lastTested coder target code (testsWritten examiner (testPath target)
      (testPrompt code) others (judged commitLine examiner target code (testPrompt code) tests world))
    rw [testsWritten_script, judged_script] at repaired
    rw [perform_commit_twice given second]
    exact .of_leads (judging.trans writing) repaired

theorem proposed_leads (target : String) (copy : World) :
    ∃ events, World.Leads copy events (proposed target copy) := by
  have surveying : World.Leads copy (surveyLines copy.tree) (copy.note (surveyLines copy.tree)) :=
    .note copy (by simp [surveyLines])
  have setting : ∃ events, World.Leads (copy.note (surveyLines copy.tree)) events (begun target copy) :=
    ⟨_, ((World.Leads.note _ (by simp)).trans (.enlist ..)).trans (.enlist ..)⟩
  obtain ⟨events, set⟩ := setting
  obtain ⟨asking, asked, _⟩ := (refactor_traced _ _ _ attemptLimit none : Traced [] _).run (begun target copy)
  exact ⟨_, (surveying.trans set).trans asked⟩

theorem perform_campaign_fit {world copy : World} {target code : String} {rest : Script}
    (copied : Copied opening world copy) (chosen : target? copy.tree = some target)
    (found : fitCode (readOrExplain copy.tree target) attemptLimit world.script = some (code, rest)) :
    ∃ coder examiner events before, World.Leads copy events before ∧ before.script = rest ∧
      perform campaign world = perform (commit coder examiner target code) before := by
  obtain ⟨script, coder, examiner, done⟩ := perform_campaign_commit copied chosen found
  obtain ⟨events, leads⟩ := proposed_leads target copy
  exact ⟨coder, examiner, events, _, leads, script, done⟩

/-- Every text for the target but the first is followed by a run of its tests. -/
def Retested (target : String) (events : List Event) : Prop :=
  ∀ before patch after, events = before ++ .saved target patch :: after → textsFor target before ≠ [] →
    .testsRun (testCommand (testPath target)) ∈ after

theorem mem_after_of_not_mem {event other : Event} {before after front back : List Event}
    (same : before ++ event :: after = front ++ other :: back) (apart : event ≠ other)
    (early : event ∉ back) : other ∈ after := by
  rcases List.append_eq_append_iff.mp same with ⟨between, rfl, rest⟩ | ⟨between, rfl, rest⟩
  · cases between with
    | nil => exact absurd (List.cons.inj rest).1 apart
    | cons first others =>
      rw [(List.cons.inj rest).2]
      exact List.mem_append_right others List.mem_cons_self
  · cases between with
    | nil => exact absurd (List.cons.inj rest).1.symm apart
    | cons first others =>
      refine absurd ?_ early
      rw [(List.cons.inj rest).2]
      exact List.mem_append_right others List.mem_cons_self

/-- Once the first text has been saved, all others are tested exactly if no patch comes last. -/
theorem retested_iff {target : String} {unseen : Option String} {before after : World}
    (begun : textsFor target before.events ≠ [])
    (tested : LastTested target (testPath target) unseen before after) :
    Retested target after.events ↔ unseen = none := by
  obtain ⟨earlier, later, leads, testless, saves⟩ := tested
  rw [leads.record, ← List.append_assoc]
  constructor
  · intro retested
    cases unseen with
    | none => rfl
    | some patch =>
      have last : .saved target patch ∈ later := mem_savesOf.mp (by simp [saves])
      obtain ⟨front, back, rfl⟩ := List.append_of_mem last
      have again := retested (before.events ++ earlier ++
        .testsRun (testCommand (testPath target)) :: front) patch back (by simp) (by simp [begun])
      exact absurd (List.mem_append_right front (List.mem_cons_of_mem _ again)) (testless _)
  · rintro rfl front patch back split _
    refine mem_after_of_not_mem split.symm nofun ?_
    rw [← mem_savesOf, saves]
    exact List.not_mem_nil

theorem retested_of_texts {target : String} {events : List Event} (few : (textsFor target events).length ≤ 1) :
    Retested target events := by
  rintro before patch after rfl more
  have := List.length_pos_iff.mpr more
  simp only [textsFor_append, textsFor_cons, Event.textFor_saved, List.length_append,
    Option.toList_some, List.length_singleton] at few
  omega

/-- The files after a run whose last tests have been followed by this patch. -/
theorem LastTested.tree {target tests : String} {unseen : Option String} {before after : World}
    (tested : LastTested target tests unseen before after) :
    ∃ earlier later, after.events = before.events ++ (earlier ++ .testsRun (testCommand tests) :: later) ∧
      (∀ command, .testsRun command ∉ later) ∧
      after.tree = match unseen with
        | none => replay before.tree earlier
        | some patch => ((replay before.tree earlier).saveText target patch).1 := by
  obtain ⟨earlier, later, leads, testless, saves⟩ := tested
  refine ⟨earlier, later, leads.record, testless, ?_⟩
  have silent : savesOf (.testsRun (testCommand tests) :: later) = savesOf later := rfl
  rw [leads.tree, replay_append]
  unfold replay
  rw [silent, saves]
  cases unseen <;> rfl

/-- Every patch is tested after it has been saved, unless the last round of repair saves one. A run that
comes to an end after a commit leaves the files as the last tests saw them, up to that patch. -/
theorem patches_retested_iff {tree : Tree} {script : Script} {copy : World} {target : String}
    (copied : Copied opening (World.start tree script) copy) (chosen : target? copy.tree = some target) :
    (Retested target (perform campaign (World.start tree script)).2.events ↔
      unseenPatch? (readOrExplain copy.tree target) script = none) ∧
    ((perform campaign (World.start tree script)).1 = .ok () →
      (∃ text, .saved target text ∈ (perform campaign (World.start tree script)).2.events) →
      ∃ earlier later,
        (perform campaign (World.start tree script)).2.events =
          copy.events ++ (earlier ++ .testsRun (testCommand (testPath target)) :: later) ∧
        (∀ command, .testsRun command ∉ later) ∧
        (perform campaign (World.start tree script)).2.tree =
          match unseenPatch? (readOrExplain copy.tree target) script with
          | none => replay copy.tree earlier
          | some patch => ((replay copy.tree earlier).saveText target patch).1) := by
  have texts := Protocol.run_texts .guarded copied chosen
  simp only [Protocol.campaign, Protocol.texts, targetTexts] at texts
  unfold unseenPatch?
  cases found : fitCode (readOrExplain copy.tree target) attemptLimit script with
  | none =>
    simp only [found] at texts
    refine ⟨iff_of_true (retested_of_texts (by simp [texts])) rfl, ?_⟩
    rintro _ ⟨text, saved⟩
    rw [← mem_textsFor, texts] at saved
    cases saved
  | some fit =>
    obtain ⟨code, rest⟩ := fit
    obtain ⟨coder, examiner, events, before, begun, answers, done⟩ :=
      perform_campaign_fit copied chosen found
    simp only [found] at texts
    subst answers
    cases given : before.script.reply.code? with
    | none =>
      -- no tests are ever written, and the run fails
      simp only [patchesAfterCommit, given] at texts
      simp only [unseenAfterCommit, given]
      refine ⟨iff_of_true (retested_of_texts (by simp [texts])) trivial, ?_⟩
      intro ended
      rw [done, perform_commit_empty given] at ended
      cases ended
    | some tests =>
      have committing : World.Leads before [.saved target code, .line commitLine]
          (committed commitLine target code before) := (World.Leads.save ..).trans (.note _ rfl)
      have tested := commit_lastTested coder examiner target code given
      rw [← done] at tested
      constructor
      · refine retested_iff ?_ tested
        rw [textsFor_committed]
        simp
      · intro _ _
        exact (tested.of_leads (begun.trans committing)).tree

/-! ## A patch that is never tested -/

theorem outcome_of_full {script : Script} (full : .empty ∉ script.replies) :
    ∃ code, script.reply.code? = some code := by
  have given : script.reply ≠ .empty := by
    unfold Script.reply
    cases replies : script.replies with
    | nil => exact nofun
    | cons first rest =>
      rintro rfl
      exact full (replies ▸ List.mem_cons_self)
  cases reply : script.reply with
  | text text => exact ⟨_, rfl⟩
  | empty => exact absurd reply given
  | failed message => exact ⟨_, rfl⟩

theorem heal_ends (agent : Agent) (target tests : String) (left : Nat) (code : String) (world : World)
    (full : .empty ∉ world.script.replies) :
    ∃ passed, (perform (heal agent target tests left code) world).1 = .ok passed := by
  induction left generalizing code world with
  | zero => exact ⟨false, by rw [heal, perform_pure]⟩
  | succ left ih =>
    cases verdict : showsOnlySuccess world.script.testRun.report with
    | true => exact ⟨true, by rw [perform_heal_passed verdict]⟩
    | false =>
      obtain ⟨patch, given⟩ := outcome_of_full full
      rw [perform_heal_answered verdict given]
      apply ih
      rw [answered_script]
      exact fun later => full (List.mem_of_mem_tail later)

theorem outcomes_of_full {script : Script} (full : .empty ∉ script.replies) :
    ∃ tests others, script.reply.code? = some tests ∧ script.afterReply.reply.code? = some others ∧
      .empty ∉ script.afterReply.afterReply.replies := by
  have still : .empty ∉ script.afterReply.replies := fun later => full (List.mem_of_mem_tail later)
  obtain ⟨tests, given⟩ := outcome_of_full full
  obtain ⟨others, again⟩ := outcome_of_full still
  exact ⟨tests, others, given, again, fun later => still (List.mem_of_mem_tail later)⟩

theorem commit_ends (coder examiner : Agent) (target code : String) {world : World}
    (full : .empty ∉ world.script.replies) : (perform (commit coder examiner target code) world).1 = .ok () := by
  obtain ⟨tests, others, given, again, left⟩ := outcomes_of_full full
  rw [perform_commit_twice given again]
  obtain ⟨passed, ended⟩ := heal_ends coder target (testPath target) repairLimit code
    (testsWritten examiner (testPath target) (testPrompt code) others
      (judged commitLine examiner target code (testPrompt code) tests world))
    (by rwa [testsWritten_script, judged_script])
  simp only [repair, perform_bind]
  revert ended
  rcases perform (heal coder target (testPath target) repairLimit code) _ with ⟨outcome, after⟩
  rintro rfl
  cases passed with
  | true => simp only [Bool.not_true, Bool.false_eq_true, if_false, perform_pure]
  | false => simp only [Bool.not_false, if_true, perform_announce]

theorem fit_saved {tree : Tree} {script rest : Script} {copy : World} {target code : String}
    (copied : Copied opening (World.start tree script) copy) (chosen : target? copy.tree = some target)
    (found : fitCode (readOrExplain copy.tree target) attemptLimit script = some (code, rest)) :
    .saved target code ∈ (perform campaign (World.start tree script)).2.events := by
  have texts := Protocol.run_texts .guarded copied chosen
  simp only [Protocol.texts, targetTexts, found] at texts
  rw [← mem_textsFor]
  exact texts ▸ List.mem_cons_self

def stubbornReplies (code tests first second third : String) : List Reply :=
  [.text code, .text tests, .text tests, .text first, .text second, .text third]

def stubbornTests : List TestRun := List.replicate 4 (.finished 1 "1 failed" "")

theorem stubborn_unseen {old code third : String} (tests first second : String)
    (fit : judge old (codeOf code) = none) (valid : (checkSyntax (codeOf third)).isValid = true) :
    unseenPatch? old (ratedWith (stubbornReplies code tests first second third) stubbornTests) =
      some (codeOf third) := by
  have given (text : String) : (Reply.text text).code? = some (codeOf text) := rfl
  simp only [unseenPatch?, ratedWith, stubbornReplies, stubbornTests, attemptLimit, fitCode, Script.reply,
    List.headD_cons, given, fit, unseenAfterCommit, Script.afterReply, Script.afterTestRun,
    List.tail_cons, repairLimit, lastPatch?, Script.testRun, List.replicate, failed_run_shown, valid]
  simp

def stubbornScript : Script :=
  ratedWith (stubbornReplies ratedCode "assert True" "x = 1" "x = 2" "x = 3") stubbornTests

def stubbornCopy : World :=
  ratedCopyWith (stubbornReplies ratedCode "assert True" "x = 1" "x = 2" "x = 3") stubbornTests

theorem stubbornCopy_copied : Copied opening (World.start Tree.empty stubbornScript) stubbornCopy :=
  ratedCopyWith_copied ..

theorem stubbornCopy_target : target? stubbornCopy.tree = some ratedPath := ratedCopyWith_target ..

theorem stubbornCopy_text : readOrExplain stubbornCopy.tree ratedPath = String.ofList ratedChars :=
  ratedCopyWith_text ..

theorem stubborn_fit : fitCode (readOrExplain stubbornCopy.tree ratedPath) attemptLimit stubbornScript =
    some (ratedCode, stubbornScript.afterReply) := by
  have given : stubbornScript.reply.code? = some ratedCode := congrArg some ratedCode_keeps.1
  rw [stubbornCopy_text]
  exact fitCode_of_fit 2 given ratedCode_fits

theorem stubborn_last : unseenPatch? (readOrExplain stubbornCopy.tree ratedPath) stubbornScript =
    some "x = 3" := by
  have fit : judge (String.ofList ratedChars) (codeOf ratedCode) = none := by
    rw [ratedCode_keeps.1, ratedCode_fits]
  have last : codeOf "x = 3" = "x = 3" ∧ (checkSyntax "x = 3").isValid = true := by decide +kernel
  have valid : (checkSyntax (codeOf "x = 3")).isValid = true := by
    rw [last.1, last.2]
  rw [stubbornCopy_text, stubbornScript, stubborn_unseen "assert True" "x = 1" "x = 2" fit valid, last.1]

theorem stubborn_run_ends_untested :
    ¬ Retested ratedPath (perform campaign (World.start Tree.empty stubbornScript)).2.events ∧
      (perform campaign (World.start Tree.empty stubbornScript)).1 = .ok () ∧
      ∃ earlier later,
        (perform campaign (World.start Tree.empty stubbornScript)).2.events = stubbornCopy.events ++
          (earlier ++ .testsRun (testCommand (testPath ratedPath)) :: later) ∧
        (perform campaign (World.start Tree.empty stubbornScript)).2.tree =
          ((replay stubbornCopy.tree earlier).saveText ratedPath "x = 3").1 := by
  obtain ⟨retested, final⟩ := patches_retested_iff stubbornCopy_copied stubbornCopy_target
  obtain ⟨coder, examiner, _, before, begun, answers, done⟩ :=
    perform_campaign_fit stubbornCopy_copied stubbornCopy_target stubborn_fit
  have ended : (perform campaign (World.start Tree.empty stubbornScript)).1 = .ok () := by
    rw [done]
    refine commit_ends coder examiner ratedPath ratedCode ?_
    simp [answers, stubbornScript, Script.afterReply, ratedWith, stubbornReplies]
  have saved := fit_saved stubbornCopy_copied stubbornCopy_target stubborn_fit
  rw [stubborn_last] at retested final
  obtain ⟨earlier, later, record, _, tree⟩ := final ended ⟨_, saved⟩
  exact ⟨fun all => Option.some_ne_none _ (retested.mp all), ended, earlier, later, record, tree⟩

end Refactory.Campaign.Guarded
