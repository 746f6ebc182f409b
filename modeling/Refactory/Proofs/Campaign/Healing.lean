import Mathlib.Data.ENat.Lattice
import Refactory.Proofs.Campaign.Attempts

/-! How long the repair stage goes on, and what it leaves behind.

A round that fails runs the tests once and asks for one repair; a round that passes runs them once and ends
the stage. So the first run that passes tells how many runs and requests there are, and whether the stage
gives up.
-/

set_option autoImplicit false

namespace Refactory.Campaign

open Workspace Analysis

def Script.runAt (script : Script) (position : Nat) : TestRun :=
  (script.tests.drop position).headD (.failed "no scripted tests")

namespace Guarded

open World (Spends Asks)

/-! ## The first run that passes -/

def passes (run : TestRun) : Bool := showsOnlySuccess run.report

/-- The number of the first run that passes, counted from one. -/
def firstPass (tests : List TestRun) : ℕ∞ :=
  (tests.findIdx? passes).elim ⊤ fun position => position + 1

theorem passes_runAt_iff (script : Script) (position : Nat) :
    passes (script.runAt position) = true ↔ ∃ run, script.tests[position]? = some run ∧ passes run = true := by
  -- what comes after the last run of the script does not pass
  have unscripted : passes (.failed "no scripted tests") = false := by decide
  rw [Script.runAt, List.headD_eq_head?_getD, List.head?_drop]
  cases script.tests[position]? with
  | none => simp [unscripted]
  | some run => simp

/-- Within so many runs there is a first one that passes, or else none of them does. -/
theorem firstPass_cases (script : Script) (limit : Nat) :
    (∃ count < limit, firstPass script.tests = count + 1 ∧ passes (script.runAt count) = true ∧
      ∀ position < count, passes (script.runAt position) = false) ∨
    ((limit : ℕ∞) < firstPass script.tests ∧ ∀ position < limit, passes (script.runAt position) = false) := by
  unfold firstPass
  cases found : script.tests.findIdx? passes with
  | none =>
    refine .inr ⟨ENat.natCast_lt_top limit, fun position _ => ?_⟩
    rw [← Bool.not_eq_true, passes_runAt_iff]
    rintro ⟨run, listed, passed⟩
    have failed := List.findIdx?_eq_none_iff.mp found run (List.mem_of_getElem? listed)
    exact Bool.false_ne_true (failed.symm.trans passed)
  | some count =>
    obtain ⟨bound, passed, earlier⟩ := List.findIdx?_eq_some_iff_getElem.mp found
    have before (position : Nat) (less : position < count) : passes (script.runAt position) = false := by
      rw [← Bool.not_eq_true, passes_runAt_iff]
      rintro ⟨run, listed, passed⟩
      obtain ⟨_, rfl⟩ := List.getElem?_eq_some_iff.mp listed
      exact earlier position less passed
    by_cases within : count < limit
    · have now := (passes_runAt_iff script count).mpr ⟨_, List.getElem?_eq_getElem bound, passed⟩
      exact .inl ⟨count, within, rfl, now, before⟩
    · refine .inr ⟨?_, fun position less => before position (by omega)⟩
      change (limit : ℕ∞) < ((count + 1 : ℕ) : ℕ∞)
      exact Nat.cast_lt.mpr (by omega)

/-! ## Rounds that fail -/

def givesUp : Event → Bool
  | .printed text => Text.contains text "Manual Review Required"
  | _ => false

theorem textsFor_of_no_saves {events : List Event} (silent : savesOf events = []) (path : String) :
    textsFor path events = [] := by
  rw [List.eq_nil_iff_forall_not_mem]
  intro text member
  rw [mem_textsFor, ← mem_savesOf, silent] at member
  cases member

/-- Between two worlds the tests were run so many times, the agent alone was asked so many times, these texts
were saved for the target, and nothing told of giving up. -/
def Tally (agent : Agent) (target : String) (runs asked : Nat) (texts : List String) (before after : World) :
    Prop :=
  ∃ events, Spends before events after ∧ testRuns events = runs ∧
    (messagesIn events).map Prod.fst = List.replicate asked agent.model ∧ textsFor target events = texts ∧
    events.any givesUp = false

namespace Tally

variable {agent : Agent} {target : String}

theorem refl (world : World) : Tally agent target 0 0 [] world world := ⟨[], .refl world, rfl, rfl, rfl, rfl⟩

theorem trans {runs moreRuns asked moreAsked : Nat} {texts moreTexts : List String}
    {first second third : World} (left : Tally agent target runs asked texts first second)
    (right : Tally agent target moreRuns moreAsked moreTexts second third) :
    Tally agent target (runs + moreRuns) (asked + moreAsked) (texts ++ moreTexts) first third := by
  obtain ⟨earlier, spent, tested, sent, saved, goesOn⟩ := left
  obtain ⟨later, spent', tested', sent', saved', goesOn'⟩ := right
  refine ⟨earlier ++ later, spent.trans spent', ?_, ?_, ?_, ?_⟩
  · rw [testRuns_append, tested, tested']
  · rw [messagesIn_append, List.map_append, sent, sent', List.replicate_append_replicate]
  · rw [textsFor_append, saved, saved']
  · rw [List.any_append, goesOn, goesOn', Bool.or_false]

theorem note {events : List Event} (idle : events.all Event.isIdle = true)
    (goesOn : events.any givesUp = false) (world : World) :
    Tally agent target 0 0 [] world (world.note events) := by
  refine ⟨events, .note idle world, testRuns_of_idle idle, ?_, ?_, goesOn⟩
  · rw [messagesIn_of_idle idle, List.map_nil, List.replicate_zero]
  · exact textsFor_of_no_saves (savesOf_of_idle idle) target

theorem line {text : String} (goesOn : givesUp (.line text) = false) (world : World) :
    Tally agent target 0 0 [] world (world.note [.line text]) :=
  note (rfl : List.all [.line text] Event.isIdle = true)
    (by rw [List.any_cons, List.any_nil, goesOn, Bool.or_false]) world

theorem tested (world : World) (path : String) : Tally agent target 1 0 [] world (world.tested path) :=
  ⟨_, .tested world path, rfl, rfl, rfl, rfl⟩

theorem asked (world : World) (message : String) :
    Tally agent target 0 1 [] world (world.asked agent message) :=
  ⟨_, .asked world agent message, rfl, rfl, rfl, rfl⟩

theorem save (world : World) (text : String) :
    Tally agent target 0 0 [text] world (world.save target text) :=
  ⟨_, .save world target text, rfl, rfl, by simp, rfl⟩

end Tally

theorem givesUp_line (text : String) : givesUp (.line text) =
    Text.occursIn "Manual Review Required".toList (Text.withoutSequences 0 text.toList ++ "\n".toList) := by
  simp only [Event.line, givesUp, Text.contains, Text.uncoloured, String.toList_append, String.toList_ofList]

theorem givesUp_lines :
    (∀ number < 4, (Event.heading "Executioner"
      ("Running Validation (Attempt " ++ toString number ++ ")...")).any givesUp = false) ∧
    givesUp (.line "❌ Tests Failed. Triggering Self-Healing...") = false ∧
    givesUp (.line "🩹 Patch applied. Retrying tests...") = false ∧
    givesUp (.line "🎉 SUCCESS: Refactor verified clean.") = false ∧
    givesUp (.line "🛑 Manual Review Required.") = true := by
  simp only [Event.heading, List.any_cons, List.any_nil, givesUp_line, String.toList_append]
  -- a literal is made from its characters, so these need not be decoded again
  repeat rw [String.toList_ofList]
  decide +kernel

section Round

variable (agent : Agent) (target tests : String) (left : Nat) (world : World)

theorem examined_tally : Tally agent target 1 0 [] world (examined tests left world) := by
  have few : repairLimit - left < 4 := Nat.lt_succ_of_le (Nat.sub_le ..)
  have idle (action : String) : (Event.heading "Executioner" action).all Event.isIdle = true := rfl
  exact (Tally.note (idle _) (givesUp_lines.1 _ few) world).trans (.tested ..)

theorem passed_tally : Tally agent target 1 0 [] world ((examined tests left world).note
    [.line "🎉 SUCCESS: Refactor verified clean.", .logged ("SUCCESS: " ++ target)]) := by
  obtain ⟨_, _, _, praise, _⟩ := givesUp_lines
  have idle : List.all [.line "🎉 SUCCESS: Refactor verified clean.", .logged ("SUCCESS: " ++ target)]
      Event.isIdle = true := rfl
  refine (examined_tally agent target tests left world).trans (.note idle ?_ _)
  rw [List.any_cons, praise]
  rfl

/-- A round that fails runs them once, asks once, and saves the answer if it is a program. -/
theorem answered_tally (code patch : String) :
    Tally agent target 1 1 ([patch].filter fun answer => (checkSyntax answer).isValid) world
      (answered agent target tests left code patch world) := by
  obtain ⟨_, failed, applied, _⟩ := givesUp_lines
  have asked : Tally agent target 1 1 [] world (consulted agent tests left code world) :=
    (examined_tally agent target tests left world).trans ((Tally.line failed _).trans (.asked ..))
  rw [answered, List.filter_cons, List.filter_nil]
  split
  · exact asked.trans ((Tally.save ..).trans (.line applied _))
  · exact asked

end Round

/-! ## The repair stage -/

def lastAnswer (code : String) (answer : Nat → String) : Nat → String
  | 0 => code
  | count + 1 => answer count

def programsAmong (answer : Nat → String) (count : Nat) : List String :=
  ((List.range count).map answer).filter fun answer => (checkSyntax answer).isValid

theorem programsAmong_succ (answer : Nat → String) (count : Nat) :
    programsAmong answer (count + 1) =
      programsAmong answer count ++ [answer count].filter fun answer => (checkSyntax answer).isValid := by
  simp only [programsAmong, List.range_succ, List.map_append, List.map_cons, List.map_nil, List.filter_append]

section Stage

variable (agent : Agent) (target tests code : String) {world : World}
  (full : ∀ position, world.script.replyAt position ≠ .empty)

include full

/-- After some rounds that fail, the stage goes on with the rounds that are left, and the next run of the
tests and the next reply are at hand. -/
theorem perform_heal_after (count left : Nat)
    (failed : ∀ position < count, passes (world.script.runAt position) = false) :
    ∃ after, perform (heal agent target tests (count + left) code) world =
        perform (heal agent target tests left (lastAnswer code world.script.codeAt count)) after ∧
      Tally agent target count count (programsAmong world.script.codeAt count) world after ∧
      after.script.testRun = world.script.runAt count ∧
      after.script.reply.code? = some (world.script.codeAt count) := by
  -- one more round that fails takes one of the rounds that are left
  induction count generalizing left with
  | zero =>
    refine ⟨world, by rw [Nat.zero_add, lastAnswer], .refl world, rfl, Script.code?_of_turn (full 0) rfl⟩
  | succ count ih =>
    obtain ⟨between, gone, tally, run, given⟩ :=
      ih (left + 1) fun position before => failed position (Nat.lt_add_right 1 before)
    have fails : showsOnlySuccess between.script.testRun.report = false := by
      rw [run]
      exact failed count (Nat.lt_add_one count)
    let last := lastAnswer code world.script.codeAt count
    let after := answered agent target tests left last (world.script.codeAt count) between
    have tallied : Tally agent target (count + 1) (count + 1)
        (programsAmong world.script.codeAt (count + 1)) world after := by
      rw [programsAmong_succ]
      exact tally.trans (answered_tally ..)
    refine ⟨after, ?_, tallied, ?_, ?_⟩
    · rw [Nat.add_right_comm, Nat.add_assoc, gone, perform_heal_answered fails given, lastAnswer]
    · obtain ⟨events, spent, runs, _⟩ := tallied
      rw [Script.testRun, spent.tests, runs, Script.runAt]
    · obtain ⟨events, spent, _, sent, _⟩ := tallied
      have length := congrArg List.length sent
      rw [List.length_map, List.length_replicate] at length
      exact Script.code?_of_turn (full (count + 1)) (by rw [spent.replies, length])

/-- The stage ends with the first run that passes. -/
theorem perform_heal_first {count limit : Nat} (within : count < limit)
    (passed : passes (world.script.runAt count) = true)
    (failed : ∀ position < count, passes (world.script.runAt position) = false) :
    ∃ after, perform (heal agent target tests limit code) world = (.ok true, after) ∧
      Tally agent target (count + 1) count (programsAmong world.script.codeAt count) world after := by
  obtain ⟨left, rfl⟩ := Nat.exists_eq_add_of_lt within
  obtain ⟨between, gone, tally, run, _⟩ := perform_heal_after agent target tests code full count (left + 1) failed
  have shown : showsOnlySuccess between.script.testRun.report = true := by
    rw [run]
    exact passed
  refine ⟨_, gone.trans (perform_heal_passed shown), ?_⟩
  have ended := tally.trans (passed_tally agent target tests left between)
  rwa [List.append_nil, Nat.add_zero] at ended

/-- Without one it uses up all rounds. -/
theorem perform_heal_none (limit : Nat)
    (failed : ∀ position < limit, passes (world.script.runAt position) = false) :
    ∃ after, perform (heal agent target tests limit code) world = (.ok false, after) ∧
      Tally agent target limit limit (programsAmong world.script.codeAt limit) world after := by
  obtain ⟨after, gone, tally, _⟩ := perform_heal_after agent target tests code full limit 0 failed
  rw [Nat.add_zero, heal, perform_pure] at gone
  exact ⟨after, gone, tally⟩

end Stage

/-- The stage runs the tests up to the first run that passes, and asks after each of the others, three times at
most. It gives up exactly if none of these runs passes. -/
theorem perform_repair_rounds (coder : Agent) (target code : String) {world : World}
    (full : .empty ∉ world.script.replies) :
    ∃ loop after, ∃ asked : ℕ, perform (repair coder target code) world = (.ok (), after) ∧
      Spends world loop after ∧
      (testRuns loop : ℕ∞) = min (firstPass world.script.tests) repairLimit ∧
      (asked : ℕ∞) = min (firstPass world.script.tests - 1) repairLimit ∧
      (messagesIn loop).map Prod.fst = List.replicate asked coder.model ∧
      textsFor target loop = programsAmong world.script.codeAt asked ∧
      (loop.any givesUp = true ↔ repairLimit < firstPass world.script.tests) := by
  have given (position : ℕ) : world.script.replyAt position ≠ .empty :=
    Script.replyAt_ne_empty (Nat.lt_add_one position) fun member => full (List.mem_of_mem_take member)
  unfold repair
  rcases firstPass_cases world.script repairLimit with ⟨count, within, number, passed, failed⟩ | ⟨beyond, failed⟩
  · -- the run that passes is one of the rounds, and nothing is asked after it
    obtain ⟨after, done, loop, spent, runs, sent, saved, goesOn⟩ :=
      perform_heal_first coder target (testPath target) code given within passed failed
    have reached : (count : ℕ∞) + 1 ≤ repairLimit := by exact_mod_cast within
    refine ⟨loop, after, count, ?_, spent, ?_, ?_, sent, saved, ?_⟩
    · rw [perform_bind_ok done, Bool.not_true, if_neg Bool.false_ne_true, perform_pure]
    · rw [runs, number, min_eq_left reached, Nat.cast_add_one]
    · have back : (count : ℕ∞) + 1 - 1 = count := by
        exact_mod_cast congrArg Nat.cast (Nat.add_sub_cancel count 1)
      rw [number, back, min_eq_left (le_self_add.trans reached)]
    · rw [goesOn, number]
      exact iff_of_false Bool.false_ne_true (not_lt_of_ge reached)
  · -- every round has its run and its request, and the last line comes after them
    obtain ⟨after, done, loop, spent, runs, sent, saved, goesOn⟩ :=
      perform_heal_none coder target (testPath target) code given repairLimit failed
    obtain ⟨_, _, _, _, surrender⟩ := givesUp_lines
    let last : List Event := [.line "🛑 Manual Review Required."]
    refine ⟨loop ++ last, after.note last, repairLimit, ?_, spent.trans (.note rfl after), ?_, ?_, ?_, ?_, ?_⟩
    · rw [perform_bind_ok done, Bool.not_false, if_pos rfl, perform_announce]
    · rw [testRuns_append, runs, min_eq_right beyond.le]
      rfl
    · rw [min_eq_right (ENat.le_sub_one_of_lt beyond)]
    · rw [messagesIn_append, List.map_append, sent]
      exact List.append_nil _
    · rw [textsFor_append, saved]
      exact List.append_nil _
    · refine iff_of_true ?_ beyond
      rw [List.any_append, List.any_cons, surrender, Bool.true_or, Bool.or_true]

/-! ## The whole campaign -/

theorem testsWritten_spends (agent : Agent) (path message tests : String) (world : World) :
    Spends world (Event.heading "Executioner" "Generating Regression Tests..." ++ ([.sent agent.model message] ++
        ([.saved path tests] ++ [.line ("✔ Tests saved to " ++ Path.fileName path)])))
      (testsWritten agent path message tests world) := by
  have idle : (Event.heading "Executioner" "Generating Regression Tests...").all Event.isIdle = true := rfl
  have told : List.all [.line ("✔ Tests saved to " ++ Path.fileName path)] Event.isIdle = true := rfl
  exact (Spends.note idle world).trans ((Spends.asked ..).trans ((Spends.save ..).trans (.note told _)))

theorem reported_spends (target tests : String) (world : World) :
    Spends world (Event.heading "Executioner" "Running Validation..." ++ ([.testsRun (testCommand tests)] ++
        verdictLines target world.script.testRun.report))
      (reported target tests world) ∧ testRuns (verdictLines target world.script.testRun.report) = 0 := by
  have idle : (Event.heading "Executioner" "Running Validation...").all Event.isIdle = true := rfl
  have told : (verdictLines target world.script.testRun.report).all Event.isIdle = true := by
    unfold verdictLines
    split <;> rfl
  exact ⟨(Spends.note idle world).trans ((Spends.tested ..).trans (.note told _)), testRuns_of_idle told⟩

/-- A commit comes to its repair stage with the code saved and the tests run once. -/
theorem perform_commit_repair (coder examiner : Agent) {target : String} (apart : testPath target ≠ target)
    (code : String) {world : World} (full : .empty ∉ world.script.replies) :
    ∃ before events, perform (commit coder examiner target code) world =
        perform (repair coder target code) before ∧
      Spends world events before ∧ testRuns events = 1 ∧ textsFor target events = [code] := by
  obtain ⟨tests, others, given, again, _⟩ := outcomes_of_full full
  let line : List Event := [.line commitLine]
  have saved : Spends world ([.saved target code] ++ line) (committed commitLine target code world) :=
    (Spends.save ..).trans (.note rfl _)
  have written := saved.trans (testsWritten_spends examiner (testPath target) (testPrompt code) tests _)
  obtain ⟨seen, quiet⟩ := reported_spends target (testPath target) (testsWritten examiner (testPath target)
    (testPrompt code) tests (committed commitLine target code world))
  have spent := (written.trans seen).trans
    (testsWritten_spends examiner (testPath target) (testPrompt code) others _)
  refine ⟨_, _, perform_commit_twice given again, spent, ?_, ?_⟩
  · simp only [testRuns_append, quiet]
    rfl
  · -- the tests go to another path, so the code is the only text for the target
    have texts := textsFor_judged apart commitLine examiner code (testPrompt code) tests world
    rw [← textsFor_testsWritten apart examiner (testPrompt code) others, judged, spent.record,
      textsFor_append] at texts
    exact List.append_cancel_left texts

theorem refactor_asks (agent : Agent) (old first : String) (left : Nat) (last : Option Rejection)
    (world : World) : ∃ messages, Asks messages world (perform (refactor agent old first left last) world).2 := by
  induction left generalizing last world with
  | zero =>
    rw [refactor, perform_pure]
    exact ⟨[], .refl world⟩
  | succ left ih =>
    have asked := attempted_asks agent first left last world
    cases given : world.script.reply.code? with
    | none =>
      rw [perform_refactor_empty given]
      exact ⟨_, asked⟩
    | some code =>
      cases verdict : judge old code with
      | none =>
        rw [perform_refactor_fit given verdict]
        exact ⟨_, asked⟩
      | some rejection =>
        rw [perform_refactor_rejected given verdict]
        obtain ⟨messages, more⟩ := ih (some rejection)
          ((attempted agent first left last world).note [.line rejection.notice])
        exact ⟨_, (asked.trans (.line ..)).trans more⟩

theorem head?_texts {tree : Tree} {script : Script} {copy : World} {target : String}
    (copied : Copied opening (World.start tree script) copy) (chosen : target? copy.tree = some target) :
    (textsFor target (perform campaign (World.start tree script)).2.events).head? =
      (fitCode (readOrExplain copy.tree target) attemptLimit script).map Prod.fst := by
  have texts : textsFor target (perform campaign (World.start tree script)).2.events =
      targetTexts (readOrExplain copy.tree target) script := campaign_texts copied chosen
  rw [texts, targetTexts]
  cases fitCode (readOrExplain copy.tree target) attemptLimit script <;> rfl

/-- With a fit code, the campaign comes to its repair stage with that code saved and the tests run once. -/
theorem perform_campaign_repair {tree : Tree} {script rest : Script} {copy : World} {target code : String}
    (copied : Copied opening (World.start tree script) copy) (chosen : target? copy.tree = some target)
    (full : .empty ∉ script.replies)
    (found : fitCode (readOrExplain copy.tree target) attemptLimit script = some (code, rest)) :
    ∃ before events, perform campaign (World.start tree script) =
        perform (repair (coderOf copy) target code) before ∧
      Spends (World.start tree script) events before ∧ testRuns events = 1 ∧ textsFor target events = [code] := by
  have apart := testPath_ne (endsWith_of_mem_sourceFiles (mem_sourceFiles_of_target chosen))
  have same : (begun target copy).script = script := begun_script copied target
  rw [← same] at found
  obtain ⟨after, done, _⟩ := refactor_of_fitCode (coderOf copy) (firstRequest target copy) none
    (begun target copy) found
  obtain ⟨messages, asks⟩ := refactor_asks (coderOf copy) (readOrExplain copy.tree target)
    (firstRequest target copy) attemptLimit none (begun target copy)
  rw [done] at asks
  obtain ⟨earlier, reached, _, unsaved, untested⟩ :=
    ((Asks.allowsCopying.opened copied).trans (begun_asks target copy)).trans asks
  obtain ⟨before, events, committed, spent, runs, saved⟩ :=
    perform_commit_repair (coderOf copy) (examinerOf copy) apart code (reached.full full)
  refine ⟨before, earlier ++ events, ?_, reached.trans spent, ?_, ?_⟩
  · rw [perform_campaign_agents copied chosen, perform_bind_ok done, conclude, committed]
  · rw [testRuns_append, untested, runs]
  · rw [textsFor_append, textsFor_of_no_saves unsaved, saved, List.nil_append]

/-- After a commit the repair stage runs the tests up to the first run that passes and asks after each of the
others, three times at most; the last text for the target is its last answer that is a program, or else the
code of the commit. It gives up exactly if none of its runs passes. -/
theorem repair_rounds {tree : Tree} {script : Script} {copy : World} {target code : String}
    (copied : Copied opening (World.start tree script) copy) (chosen : target? copy.tree = some target)
    (full : .empty ∉ script.replies)
    (first : (textsFor target (perform campaign (World.start tree script)).2.events).head? = some code) :
    ∃ before loop, ∃ asked : ℕ,
      perform campaign (World.start tree script) = perform (repair (coderOf copy) target code) before ∧
      before.script.tests = script.tests.drop 1 ∧
      before.script.replies = script.replies.drop (messagesIn before.events).length ∧
      (perform campaign (World.start tree script)).1 = .ok () ∧
      (perform campaign (World.start tree script)).2.events = before.events ++ loop ∧
      (testRuns loop : ℕ∞) = min (firstPass before.script.tests) 3 ∧
      (asked : ℕ∞) = min (firstPass before.script.tests - 1) 3 ∧
      (messagesIn loop).map Prod.fst = List.replicate asked (coderOf copy).model ∧
      (textsFor target (perform campaign (World.start tree script)).2.events).getLast? =
        some ((programsAmong before.script.codeAt asked).getLast?.getD code) ∧
      (loop.any givesUp = true ↔ 3 < firstPass before.script.tests) := by
  rw [head?_texts copied chosen] at first
  obtain ⟨⟨code, rest⟩, found, rfl⟩ := Option.map_eq_some_iff.mp first
  obtain ⟨before, events, course, spent, runs, saved⟩ := perform_campaign_repair copied chosen full found
  have record : before.events = events := spent.record
  obtain ⟨loop, final, asked, ended, looped, tested, counted, sent, patched, givenUp⟩ :=
    perform_repair_rounds (coderOf copy) target code (spent.full full)
  refine ⟨before, loop, asked, course, ?_, ?_, ?_, ?_, tested, counted, sent, ?_, givenUp⟩
  · rw [spent.tests, runs]
    rfl
  · rw [spent.replies, record]
    rfl
  · rw [course, ended]
  · rw [course, ended, looped.record]
  · rw [course, ended, looped.record, record, textsFor_append, saved, patched, List.singleton_append,
      List.getLast?_cons]

theorem stubborn_run_gives_up :
    ∃ before : World, ∃ loop,
      (perform campaign (World.start Tree.empty stubbornScript)).2.events = before.events ++ loop ∧
      testRuns loop = 3 ∧ (messagesIn loop).map Prod.fst = List.replicate 3 (coderOf stubbornCopy).model ∧
      loop.any givesUp = true := by
  have first : (textsFor ratedPath (perform campaign (World.start Tree.empty stubbornScript)).2.events).head? =
      some ratedCode := by
    rw [head?_texts stubbornCopy_copied stubbornCopy_target, stubborn_fit, Option.map_some]
  obtain ⟨before, loop, asked, _, tests, _, _, record, runs, counted, sent, _, givenUp⟩ :=
    repair_rounds stubbornCopy_copied stubbornCopy_target
      (by simp [stubbornScript, ratedWith, stubbornReplies]) first
  have never : firstPass (stubbornScript.tests.drop 1) = ⊤ := by
    have none_passes : (stubbornScript.tests.drop 1).findIdx? passes = none := by decide +kernel
    rw [firstPass, none_passes, Option.elim_none]
  rw [tests, never] at runs counted givenUp
  rw [ENat.top_sub_one, min_eq_right le_top] at counted
  rw [min_eq_right le_top] at runs
  have three : asked = 3 := Nat.cast_injective counted
  exact ⟨before, loop, record, Nat.cast_injective runs, three ▸ sent, givenUp.mpr (ENat.natCast_lt_top 3)⟩

end Guarded

end Refactory.Campaign
