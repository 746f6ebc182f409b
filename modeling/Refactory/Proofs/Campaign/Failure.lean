import Refactory.Proofs.Campaign.Reply
import Refactory.Proofs.Campaign.Saved

/-! Failures of the models, and what becomes of them in a campaign.

A failure comes back as a text like any other reply. That text is never a program, so it never reaches
the target of a campaign: all that does is the code of a reply.
-/

set_option autoImplicit false

namespace Refactory.Campaign

open Workspace Analysis

def Script.Answers (script : Script) (reply : Reply) : Prop :=
  reply ∈ script.replies ∨ reply = .failed "no scripted replies"

namespace Script.Answers

variable {script : Script} {reply : Reply}

theorem next (script : Script) : script.Answers script.reply := by
  unfold Answers Script.reply
  cases script.replies with
  | nil => exact Or.inr rfl
  | cons first rest => exact Or.inl List.mem_cons_self

theorem of_afterReply (later : script.afterReply.Answers reply) : script.Answers reply :=
  later.imp_left List.mem_of_mem_tail

theorem of_afterTestRun (later : script.afterTestRun.Answers reply) : script.Answers reply := later

/-- A reply whose code is a program is a text. -/
theorem text_of_valid {code : String} (answers : script.Answers reply) (given : reply.code? = some code)
    (valid : (checkSyntax code).isValid = true) : ∃ text, .text text ∈ script.replies ∧ codeOf text = code := by
  have sound (message : String) : reply ≠ .failed message := by
    rintro rfl
    rw [← Option.some.inj given, failure_invalid] at valid
    cases valid
  cases reply with
  | text text => exact ⟨text, answers.resolve_right nofun, Option.some.inj given⟩
  | empty => cases given
  | failed message => exact absurd rfl (sound message)

end Script.Answers

namespace Guarded

theorem answers_of_fitCode {old code : String} {left : Nat} {script rest : Script}
    (found : fitCode old left script = some (code, rest)) :
    (∃ reply, script.Answers reply ∧ reply.code? = some code) ∧
      ∀ reply, rest.Answers reply → script.Answers reply := by
  induction left generalizing script with
  | zero => cases found
  | succ left ih =>
    unfold fitCode at found
    split at found
    · cases found
    · next reply given =>
      split at found
      · cases found
        exact ⟨⟨script.reply, .next script, given⟩, fun _ => .of_afterReply⟩
      · obtain ⟨⟨reply, answers, spelled⟩, later⟩ := ih found
        exact ⟨⟨reply, answers.of_afterReply, spelled⟩, fun reply left => (later reply left).of_afterReply⟩

theorem answers_of_mem_patches {left : Nat} {script : Script} {patch : String}
    (member : patch ∈ patches left script) : ∃ reply, script.Answers reply ∧ reply.code? = some patch := by
  induction left generalizing script with
  | zero => cases member
  | succ left ih =>
    unfold patches at member
    split at member
    · cases member
    · split at member
      · cases member
      · next reply given =>
        rcases List.mem_append.mp member with now | later
        · split at now
          · rw [List.mem_singleton.mp now]
            exact ⟨script.reply, .next script, given⟩
          · cases now
        · obtain ⟨reply, answers, spelled⟩ := ih later
          exact ⟨reply, answers.of_afterReply.of_afterTestRun, spelled⟩

theorem answers_of_mem_targetTexts {old text : String} {script : Script}
    (member : text ∈ targetTexts old script) : ∃ reply, script.Answers reply ∧ reply.code? = some text := by
  unfold targetTexts at member
  split at member
  · cases member
  · next code rest found =>
    obtain ⟨first, later⟩ := answers_of_fitCode found
    rcases List.mem_cons.mp member with rfl | patched
    · exact first
    · unfold patchesAfterCommit at patched
      split at patched
      · obtain ⟨reply, answers, spelled⟩ := answers_of_mem_patches patched
        exact ⟨reply, later reply answers.of_afterReply.of_afterTestRun.of_afterReply, spelled⟩
      · cases patched

end Guarded

theorem Protocol.answers_of_mem_texts (protocol : Protocol) {old text : String} {script : Script}
    (member : text ∈ protocol.texts old script) : ∃ reply, script.Answers reply ∧ reply.code? = some text := by
  cases protocol with
  | guarded => exact Guarded.answers_of_mem_targetTexts member
  | single =>
    have given := (Option.filter_eq_some_iff.mp (Option.mem_toList.mp member)).1
    exact ⟨script.reply, .next script, given⟩

/-- The message of a failed call, whatever it says, gives no program. So what a campaign saves for its
target is always the code of a reply that came back as a text, and never that of a failure. -/
theorem failures_never_saved :
    (∀ message, (Reply.failed message).code? = some (codeOf ("Agent Error: " ++ message)) ∧
      (checkSyntax (codeOf ("Agent Error: " ++ message))).isValid = false) ∧
    ∀ (protocol : Protocol) (tree : Tree) (script : Script) (copy : World) (target text : String),
      Copied protocol.opening (World.start tree script) copy →
      protocol.target? copy.tree = some target →
      Event.saved target text ∈ (perform protocol.campaign (World.start tree script)).2.events →
      (∃ reply, .text reply ∈ script.replies ∧ codeOf reply = text) ∧
        ∀ message, codeOf ("Agent Error: " ++ message) ≠ text := by
  refine ⟨fun message => ⟨rfl, failure_invalid message⟩, ?_⟩
  intro protocol tree script copy target text copied chosen saved
  rw [protocol.saved_iff copied chosen] at saved
  have valid := protocol.valid_of_mem_texts saved
  obtain ⟨reply, answers, given⟩ := protocol.answers_of_mem_texts saved
  refine ⟨answers.text_of_valid given valid, fun message same => ?_⟩
  rw [← same, failure_invalid] at valid
  cases valid

/-! ## A failure that reads like a program -/

def interruptedReplies : List Reply := [.failed "```python\nx = 1\n```", .text Guarded.ratedCode]

theorem Guarded.second_mem_targetTexts {old failure code : String} {script : Script}
    (first : script.reply.code? = some failure) (unfit : judge old failure ≠ none)
    (second : script.afterReply.reply.code? = some code) (fit : judge old code = none) :
    code ∈ targetTexts old script := by
  simp only [targetTexts, attemptLimit, fitCode_of_unfit 2 first unfit, fitCode_of_fit 1 second fit,
    List.mem_cons_self]

theorem interrupted_texts : Guarded.ratedCode ∈
    Guarded.targetTexts (String.ofList Guarded.ratedChars) (Guarded.ratedWith interruptedReplies []) := by
  have failure : (Guarded.ratedWith interruptedReplies []).reply.code? =
      some (codeOf ("Agent Error: " ++ "```python\nx = 1\n```")) := rfl
  have given : (Guarded.ratedWith interruptedReplies []).afterReply.reply.code? =
      some Guarded.ratedCode := congrArg some Guarded.ratedCode_keeps.1
  refine Guarded.second_mem_targetTexts failure ?_ given Guarded.ratedCode_fits
  intro fit
  have valid := ((Guarded.judge_eq_none_iff _ _).mp fit).1
  rw [failure_invalid] at valid
  cases valid

theorem interrupted_run_saves_reply :
    Event.saved Guarded.ratedPath Guarded.ratedCode ∈ (perform Guarded.campaign
        (World.start Tree.empty (Guarded.ratedWith interruptedReplies []))).2.events ∧
      (∃ reply, .text reply ∈ interruptedReplies ∧ codeOf reply = Guarded.ratedCode) ∧
      codeOf ("Agent Error: " ++ "```python\nx = 1\n```") ≠ Guarded.ratedCode := by
  have copied := Guarded.ratedCopyWith_copied interruptedReplies []
  have chosen := Guarded.ratedCopyWith_target interruptedReplies []
  have saved : Event.saved Guarded.ratedPath Guarded.ratedCode ∈ (perform Guarded.campaign
      (World.start Tree.empty (Guarded.ratedWith interruptedReplies []))).2.events := by
    refine (Protocol.saved_iff .guarded copied chosen).mpr ?_
    rw [Guarded.ratedCopyWith_text]
    exact interrupted_texts
  have kept := failures_never_saved.2 .guarded Tree.empty (Guarded.ratedWith interruptedReplies [])
    (Guarded.ratedCopyWith interruptedReplies []) Guarded.ratedPath Guarded.ratedCode copied chosen saved
  exact ⟨saved, kept.1, kept.2 _⟩

end Refactory.Campaign
