import Refactory.Proofs.Campaign.Repair

/-! How often a campaign asks for new code, and what it asks.

Messages and runs of the tests take their answers from the script in turn. The refactoring stage asks until
a reply is fit, three times at most, and tells each time why the last reply was turned down.
-/

set_option autoImplicit false

namespace Refactory.Campaign

open Workspace Analysis

/-! ## Answers taken in turn -/

def Event.message? : Event → Option (Nat × String)
  | .sent model message => some (model, message)
  | _ => none

def messagesIn (events : List Event) : List (Nat × String) := events.filterMap Event.message?

@[simp] theorem messagesIn_append (first second : List Event) :
    messagesIn (first ++ second) = messagesIn first ++ messagesIn second :=
  List.filterMap_append

/-- The event sends nothing, tests nothing and saves nothing. -/
def Event.isIdle : Event → Bool
  | .sent _ _ => false
  | .testsRun _ => false
  | .saved _ _ => false
  | _ => true

namespace Script

def replyAt (script : Script) (position : Nat) : Reply :=
  (script.replies.drop position).headD (.failed "no scripted replies")

def codeAt (script : Script) (position : Nat) : String := (script.replyAt position).code?.getD ""

theorem code?_of_turn {script later : Script} {position : Nat} (given : script.replyAt position ≠ .empty)
    (turn : later.replies = script.replies.drop position) :
    later.reply.code? = some (script.codeAt position) := by
  have same : later.reply = script.replyAt position := by rw [reply, turn, replyAt]
  rw [same, codeAt]
  cases found : script.replyAt position with
  | text text => rfl
  | empty => exact absurd found given
  | failed message => rfl

theorem replyAt_ne_empty {script : Script} {position limit : Nat} (within : position < limit)
    (full : .empty ∉ script.replies.take limit) : script.replyAt position ≠ .empty := by
  rw [replyAt, List.headD_eq_head?_getD, List.head?_drop, ← List.getElem?_take_of_lt within]
  cases found : (script.replies.take limit)[position]? with
  | none => exact nofun
  | some reply =>
    rintro rfl
    exact full (List.mem_of_getElem? found)

end Script

/-- These events lead from one world to another, and took their answers in turn. -/
structure World.Spends (before : World) (events : List Event) (after : World) : Prop where
  record : after.events = before.events ++ events
  replies : after.script.replies = before.script.replies.drop (messagesIn events).length
  tests : after.script.tests = before.script.tests.drop (testRuns events)

namespace World.Spends

theorem refl (world : World) : Spends world [] world := ⟨(List.append_nil _).symm, rfl, rfl⟩

theorem trans {first second third : World} {earlier later : List Event}
    (left : Spends first earlier second) (right : Spends second later third) :
    Spends first (earlier ++ later) third where
  record := by rw [right.record, left.record, List.append_assoc]
  replies := by
    rw [right.replies, left.replies, List.drop_drop, messagesIn_append, List.length_append]
  tests := by rw [right.tests, left.tests, List.drop_drop, testRuns_append]

theorem full {before after : World} {events : List Event} (spent : Spends before events after)
    (full : .empty ∉ before.script.replies) : .empty ∉ after.script.replies := by
  rw [spent.replies]
  exact fun left => full (List.mem_of_mem_drop left)

theorem asked (world : World) (agent : Agent) (message : String) :
    Spends world [.sent agent.model message] (world.asked agent message) :=
  ⟨world.asked_events agent message, List.drop_one.symm, rfl⟩

theorem tested (world : World) (path : String) :
    Spends world [.testsRun (testCommand path)] (world.tested path) :=
  ⟨world.tested_events path, rfl, List.drop_one.symm⟩

theorem save (world : World) (path text : String) :
    Spends world [.saved path text] (world.save path text) :=
  ⟨world.save_events path text, congrArg Script.replies (world.save_script path text),
    congrArg Script.tests (world.save_script path text)⟩

end World.Spends

section Idle

variable {events : List Event} (idle : events.all Event.isIdle = true)

include idle

theorem messagesIn_of_idle : messagesIn events = [] := by
  rw [messagesIn, List.filterMap_eq_nil_iff]
  intro event member
  have still := List.all_eq_true.mp idle event member
  cases event with
  | sent model message => cases still
  | _ => rfl

theorem savesOf_of_idle : savesOf events = [] := by
  rw [savesOf, List.filterMap_eq_nil_iff]
  intro event member
  have still := List.all_eq_true.mp idle event member
  cases event with
  | saved path text => cases still
  | _ => rfl

theorem testRuns_of_idle : testRuns events = 0 := by
  rw [testRuns, List.countP_eq_zero]
  intro event member
  have still := List.all_eq_true.mp idle event member
  cases event with
  | testsRun command => cases still
  | _ => exact Bool.false_ne_true

theorem World.Spends.of_idle {before after : World} (record : after.events = before.events ++ events)
    (script : after.script = before.script) : World.Spends before events after := by
  refine ⟨record, ?_, ?_⟩
  · rw [messagesIn_of_idle idle, script, List.length_nil, List.drop_zero]
  · rw [testRuns_of_idle idle, script, List.drop_zero]

theorem World.Spends.note (world : World) : World.Spends world events (world.note events) :=
  .of_idle idle rfl rfl

end Idle

/-- Between two worlds these messages were sent, nothing was saved and no tests were run. -/
def World.Asks (messages : List (Nat × String)) (before after : World) : Prop :=
  ∃ events, World.Spends before events after ∧ messagesIn events = messages ∧ savesOf events = [] ∧
    testRuns events = 0

namespace World.Asks

theorem refl (world : World) : Asks [] world world := ⟨[], .refl world, rfl, rfl, rfl⟩

theorem trans {earlier later : List (Nat × String)} {first second third : World}
    (left : Asks earlier first second) (right : Asks later second third) :
    Asks (earlier ++ later) first third := by
  obtain ⟨before, spent, asked, unsaved, untested⟩ := left
  obtain ⟨after, spent', asked', unsaved', untested'⟩ := right
  refine ⟨before ++ after, spent.trans spent', ?_, ?_, ?_⟩
  · rw [messagesIn_append, asked, asked']
  · rw [savesOf_append, unsaved, unsaved', List.append_nil]
  · rw [testRuns_append, untested, untested']

theorem of_idle {events : List Event} (idle : events.all Event.isIdle = true) {before after : World}
    (record : after.events = before.events ++ events) (script : after.script = before.script) :
    Asks [] before after :=
  ⟨events, .of_idle idle record script, messagesIn_of_idle idle, savesOf_of_idle idle, testRuns_of_idle idle⟩

theorem line (world : World) (text : String) : Asks [] world (world.note [.line text]) :=
  of_idle (rfl : List.all [.line text] Event.isIdle = true) rfl rfl

theorem enlist (world : World) (profile : Profile) : Asks [] world (world.enlist profile) :=
  of_idle (rfl : List.all [.modelMade defaultModel profile.instruction] Event.isIdle = true) rfl rfl

theorem asked (world : World) (agent : Agent) (message : String) :
    Asks [(agent.model, message)] world (world.asked agent message) :=
  ⟨_, .asked world agent message, rfl, rfl, rfl⟩

theorem allowsCopying : AllowsCopying (Asks []) where
  refl := refl
  trans left right := left.trans right
  note {event} copying _ := by
    have idle : List.all [event] Event.isIdle = true := by cases copying <;> rfl
    exact of_idle idle rfl rfl
  withTree world _ _ := of_idle (rfl : List.all [] Event.isIdle = true) (List.append_nil _).symm rfl

theorem replies {messages : List (Nat × String)} {before after : World} (asks : Asks messages before after) :
    after.script.replies = before.script.replies.drop messages.length := by
  obtain ⟨events, spent, same, _⟩ := asks
  rw [spent.replies, same]

end World.Asks

namespace Guarded

open World (Asks)

/-! ## The refactoring stage -/

def lastRejection (old : String) (code : Nat → String) : Nat → Option Rejection
  | 0 => none
  | count + 1 => judge old (code count)

/-- The first requests for new code. Each but the first ends with the reason why the reply before it was
turned down. -/
def requests (old first : String) (code : Nat → String) (count : Nat) : List String :=
  (List.range count).map fun position => promptAfter first (lastRejection old code position)

theorem length_requests (old first : String) (code : Nat → String) (count : Nat) :
    (requests old first code count).length = count := by
  rw [requests, List.length_map, List.length_range]

theorem requests_succ (old first : String) (code : Nat → String) (count : Nat) :
    requests old first code (count + 1) =
      requests old first code count ++ [promptAfter first (lastRejection old code count)] := by
  simp only [requests, List.range_succ, List.map_append, List.map_cons, List.map_nil]

theorem attempted_asks (agent : Agent) (first : String) (left : Nat) (last : Option Rejection)
    (world : World) :
    Asks [(agent.model, promptAfter first last)] world (attempted agent first left last world) :=
  (Asks.line ..).trans (.asked ..)

section Attempts

variable (agent : Agent) {old : String} (first : String) {world : World}

theorem turn_of_requests {count : Nat} {after : World}
    (asks : Asks ((requests old first world.script.codeAt count).map (agent.model, ·)) world after) :
    after.script.replies = world.script.replies.drop count := by
  rw [asks.replies, List.length_map, length_requests]

/-- After some replies that are turned down, the stage goes on with the attempts that are left. -/
theorem perform_refactor_after (count left : Nat)
    (full : ∀ position < count, world.script.replyAt position ≠ .empty)
    (rejected : ∀ position < count, judge old (world.script.codeAt position) ≠ none) :
    ∃ after, perform (refactor agent old first (count + left) none) world =
        perform (refactor agent old first left (lastRejection old world.script.codeAt count)) after ∧
      Asks ((requests old first world.script.codeAt count).map (agent.model, ·)) world after := by
  -- one more rejected reply takes one of the attempts that are left
  induction count generalizing left with
  | zero => exact ⟨world, by rw [Nat.zero_add, lastRejection], .refl world⟩
  | succ count ih =>
    obtain ⟨between, gone, asks⟩ := ih (left + 1) (fun position before => full position (Nat.lt_add_right 1 before))
      fun position before => rejected position (Nat.lt_add_right 1 before)
    have given := Script.code?_of_turn (full count (Nat.lt_add_one count)) (turn_of_requests agent first asks)
    obtain ⟨rejection, verdict⟩ := Option.ne_none_iff_exists'.mp (rejected count (Nat.lt_add_one count))
    let last := lastRejection old world.script.codeAt count
    let told := (attempted agent first left last between).note [.line rejection.notice]
    refine ⟨told, ?_, ?_⟩
    · rw [Nat.add_right_comm, Nat.add_assoc, gone, perform_refactor_rejected given verdict, lastRejection, verdict]
    · rw [requests_succ, List.map_append]
      exact asks.trans ((attempted_asks agent first left last between).trans (.line ..))

/-- The stage ends with the first fit reply. -/
theorem perform_refactor_first {count limit : Nat} (within : count < limit)
    (full : ∀ position ≤ count, world.script.replyAt position ≠ .empty)
    (fit : judge old (world.script.codeAt count) = none)
    (rejected : ∀ position < count, judge old (world.script.codeAt position) ≠ none) :
    ∃ after, perform (refactor agent old first limit none) world =
        (.ok (some (world.script.codeAt count)), after) ∧
      Asks ((requests old first world.script.codeAt (count + 1)).map (agent.model, ·)) world after := by
  obtain ⟨left, rfl⟩ := Nat.exists_eq_add_of_lt within
  obtain ⟨between, gone, asks⟩ := perform_refactor_after agent first count (left + 1)
    (fun position before => full position (Nat.le_of_lt before)) rejected
  have given := Script.code?_of_turn (full count (Nat.le_refl count)) (turn_of_requests agent first asks)
  refine ⟨_, gone.trans (perform_refactor_fit given fit), ?_⟩
  rw [requests_succ, List.map_append]
  exact asks.trans (attempted_asks ..)

/-- Without one it uses up all attempts. -/
theorem perform_refactor_none (limit : Nat)
    (full : ∀ position < limit, world.script.replyAt position ≠ .empty)
    (rejected : ∀ position < limit, judge old (world.script.codeAt position) ≠ none) :
    ∃ after, perform (refactor agent old first limit none) world = (.ok none, after) ∧
      Asks ((requests old first world.script.codeAt limit).map (agent.model, ·)) world after := by
  obtain ⟨after, gone, asks⟩ := perform_refactor_after agent first limit 0 full rejected
  rw [Nat.add_zero, refactor, perform_pure] at gone
  exact ⟨after, gone, asks⟩

end Attempts

/-! ## The whole campaign -/

def firstRequest (target : String) (copy : World) : String :=
  prompt ((ImportGraph.ofFolder copy.tree repositoryFolder).constraints target) (readOrExplain copy.tree target)

def coderOf (copy : World) : Agent := copy.nextAgent refactorer

def examinerOf (copy : World) : Agent := (copy.enlist refactorer).nextAgent tester

theorem coder_ne_examiner (copy : World) : (coderOf copy).model ≠ (examinerOf copy).model :=
  Nat.ne_of_lt (Nat.lt_add_one copy.models)

theorem begun_asks (target : String) (copy : World) : Asks [] copy (begun target copy) := by
  have surveyed : Asks [] copy (copy.note (surveyLines copy.tree)) :=
    .of_idle (by simp [surveyLines, Event.line, Event.isIdle]) rfl rfl
  have told (world : World) (first second : String) : Asks [] world (world.note [.line first, .line second]) :=
    .of_idle (rfl : List.all [.line first, .line second] Event.isIdle = true) rfl rfl
  exact surveyed.trans ((told ..).trans ((Asks.enlist ..).trans (.enlist ..)))

theorem perform_campaign_agents {world copy : World} {target : String} (copied : Copied opening world copy)
    (chosen : target? copy.tree = some target) :
    perform campaign world = perform (refactor (coderOf copy) (readOrExplain copy.tree target)
      (firstRequest target copy) attemptLimit none >>= conclude (coderOf copy) (examinerOf copy) target)
      (begun target copy) := by
  rw [perform_campaign copied, chosen]
  exact perform_treat_proposal ..

/-- A commit saves the code before it asks for tests. -/
theorem commit_saves (coder examiner : Agent) (target code : String) (world : World) :
    ∃ rest, (perform (commit coder examiner target code) world).2.events =
      world.events ++ .saved target code :: rest := by
  cases given : world.script.reply.code? with
  | none =>
    refine ⟨.line commitLine :: (Event.heading "Executioner" "Generating Regression Tests..." ++
      [.sent examiner.model (testPrompt code)]), ?_⟩
    rw [perform_commit_empty given]
    simp [testsAsked, committed]
  | some tests =>
    obtain ⟨earlier, later, leads, _⟩ := commit_lastTested coder examiner target code given
    refine ⟨.line commitLine :: (earlier ++ .testsRun (testCommand (testPath target)) :: later), ?_⟩
    rw [leads.record]
    simp [committed]

def Fits (old code : String) : Prop :=
  (checkSyntax code).isValid = true ∧ (checkScope old code).isAccepted = true

/-- A campaign saves the first fit code among the first three replies, and asks no more than that takes. If
there is none it ends after three requests, with nothing saved and nothing tested. Each request is the first
one, followed by the reason why the reply before it was turned down. -/
theorem asks_until_fit {tree : Tree} {script : Script} {copy : World} {target : String}
    (copied : Copied opening (World.start tree script) copy) (chosen : target? copy.tree = some target)
    (full : .empty ∉ script.replies.take attemptLimit) :
    (∀ count < attemptLimit, Fits (readOrExplain copy.tree target) (script.codeAt count) →
      (∀ earlier < count, ¬ Fits (readOrExplain copy.tree target) (script.codeAt earlier)) →
      ∃ stage rest, (perform campaign (World.start tree script)).2.events =
          stage ++ .saved target (script.codeAt count) :: rest ∧
        messagesIn stage = (requests (readOrExplain copy.tree target) (firstRequest target copy) script.codeAt
          (count + 1)).map ((coderOf copy).model, ·) ∧
        savesOf stage = [] ∧ testRuns stage = 0) ∧
    ((∀ count < attemptLimit, ¬ Fits (readOrExplain copy.tree target) (script.codeAt count)) →
      (perform campaign (World.start tree script)).1 = .ok () ∧
      messagesIn (perform campaign (World.start tree script)).2.events =
        (requests (readOrExplain copy.tree target) (firstRequest target copy) script.codeAt
          attemptLimit).map ((coderOf copy).model, ·) ∧
      (∀ message, ((examinerOf copy).model, message) ∉
        messagesIn (perform campaign (World.start tree script)).2.events) ∧
      savesOf (perform campaign (World.start tree script)).2.events = [] ∧
      testRuns (perform campaign (World.start tree script)).2.events = 0) := by
  -- neither the copy nor what is told before the stage takes a reply
  have reached : Asks [] (World.start tree script) (begun target copy) :=
    (Asks.allowsCopying.opened copied).trans (begun_asks target copy)
  have same : (begun target copy).script = script := begun_script copied target
  have given {position : Nat} (within : position < attemptLimit) :
      (begun target copy).script.replyAt position ≠ .empty := by
    rw [same]
    exact Script.replyAt_ne_empty within full
  have unfit {code : String} (turned : ¬ Fits (readOrExplain copy.tree target) code) :
      judge (readOrExplain copy.tree target) code ≠ none :=
    fun fit => turned ((judge_eq_none_iff ..).mp fit)
  rw [perform_campaign_agents copied chosen]
  constructor
  · intro count within fit earlier
    obtain ⟨after, done, asks⟩ := perform_refactor_first (coderOf copy) (firstRequest target copy) within
      (fun position upTo => given (Nat.lt_of_le_of_lt upTo within))
      (by rw [same]; exact (judge_eq_none_iff ..).mpr fit)
      fun position before => by rw [same]; exact unfit (earlier position before)
    rw [same] at done asks
    obtain ⟨stage, spent, messages, unsaved, untested⟩ := reached.trans asks
    obtain ⟨rest, saved⟩ := commit_saves (coderOf copy) (examinerOf copy) target (script.codeAt count) after
    rw [perform_bind_ok done, conclude]
    exact ⟨stage, rest, by rw [saved, spent.record]; rfl, messages, unsaved, untested⟩
  · intro turned
    obtain ⟨after, done, asks⟩ := perform_refactor_none (coderOf copy) (firstRequest target copy) attemptLimit
      (fun _ within => given within) fun position before => by rw [same]; exact unfit (turned position before)
    rw [same] at asks
    rw [perform_bind_ok done, conclude, perform_announce]
    obtain ⟨events, spent, messages, unsaved, untested⟩ := (reached.trans asks).trans (.line after
      ("🛑 FATAL: Could not generate safe code after " ++ toString attemptLimit ++ " attempts."))
    have record : (after.note [.line ("🛑 FATAL: Could not generate safe code after " ++ toString attemptLimit ++
      " attempts.")]).events = events := spent.record
    rw [record, messages, List.append_nil, List.nil_append]
    refine ⟨rfl, rfl, fun message member => ?_, unsaved, untested⟩
    obtain ⟨request, _, sent⟩ := List.mem_map.mp member
    exact coder_ne_examiner copy (congrArg Prod.fst sent)

def hesitantReplies : List Reply := [.text "x =", .text ratelessPatch, .text ratedCode]

theorem hesitant_codes : (ratedWith hesitantReplies []).codeAt 0 = "x =" ∧
    (ratedWith hesitantReplies []).codeAt 1 = ratelessPatch ∧
    (ratedWith hesitantReplies []).codeAt 2 = ratedCode ∧ (checkSyntax "x =").isValid = false := by
  have first : codeOf "x =" = "x =" ∧ (checkSyntax "x =").isValid = false := by decide +kernel
  obtain ⟨fit, unrated, _⟩ := rated_codes
  exact ⟨first.1, unrated, fit.1, first.2⟩

theorem hesitant_run_saves_third :
    ∃ stage rest, (perform campaign (World.start Tree.empty (ratedWith hesitantReplies []))).2.events =
        stage ++ .saved ratedPath ratedCode :: rest ∧
      messagesIn stage = (requests (String.ofList ratedChars)
        (firstRequest ratedPath (ratedCopyWith hesitantReplies [])) (ratedWith hesitantReplies []).codeAt
        3).map ((coderOf (ratedCopyWith hesitantReplies [])).model, ·) ∧
      savesOf stage = [] ∧ testRuns stage = 0 := by
  obtain ⟨half, rateless, rated, broken⟩ := hesitant_codes
  obtain ⟨_, _, parses, unread, untaken⟩ := rated_codes
  have lost := (rated_rejected_iff parses).mpr ⟨fun used => unread used.read, untaken⟩
  have saves := (asks_until_fit (ratedCopyWith_copied hesitantReplies []) (ratedCopyWith_target ..)
    (by simp [ratedWith, hesitantReplies, attemptLimit])).1 2 (by decide)
  rw [ratedCopyWith_text, rated] at saves
  refine saves ((judge_eq_none_iff ..).mp ratedCode_fits) fun earlier before fits => ?_
  obtain rfl | rfl : earlier = 0 ∨ earlier = 1 := by omega
  · rw [half] at fits
    exact Bool.false_ne_true (broken.symm.trans fits.1)
  · rw [rateless] at fits
    exact Bool.false_ne_true (lost.symm.trans fits.2)

end Guarded

end Refactory.Campaign
