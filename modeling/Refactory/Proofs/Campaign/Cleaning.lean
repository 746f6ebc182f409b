import Refactory.Proofs.Campaign.Failure
import Refactory.Proofs.Source.Trimming

/-! What the cleaning of a reply does to the program in it.

A reply is cleaned as a text: fences are taken out wherever they stand, and blanks around the rest. The
blanks do not matter to the tree of a program. The fences do, for they may stand in its literals.
-/

set_option autoImplicit false

namespace Refactory.Campaign

open Workspace Analysis Source

theorem exists_tree_of_valid {text : String} (valid : (checkSyntax text).isValid = true) :
    ∃ found, Program.parse text = .ok found := by
  unfold checkSyntax at valid
  split at valid
  · next found parsed => exact ⟨found, parsed⟩
  · cases valid

/-- The code of a reply has the tree of the reply without its fences. -/
theorem parse_codeOf {reply : String} {bare : Program} (parsed : Program.parse (unfenced reply) = .ok bare)
    (valid : (checkSyntax (codeOf reply)).isValid = true) : Program.parse (codeOf reply) = .ok bare := by
  obtain ⟨kept, trimmed⟩ := exists_tree_of_valid valid
  rw [trimmed, parse_trim parsed trimmed]

/-- A text that a campaign saves for its target is the code of a reply. It has the tree that the reply
has without its fences. So a reply that is a program keeps its tree if it has no fences; with fences it
does exactly if taking them out does not change the tree. -/
theorem saved_tree_kept_iff (protocol : Protocol) (tree : Tree) (script : Script) (copy : World)
    (target code : String) (copied : Copied protocol.opening (World.start tree script) copy)
    (chosen : protocol.target? copy.tree = some target)
    (saved : Event.saved target code ∈ (perform protocol.campaign (World.start tree script)).2.events) :
    (∃ reply, .text reply ∈ script.replies ∧ codeOf reply = code) ∧
    ∀ reply program, codeOf reply = code → Program.parse reply = .ok program →
      (Text.contains reply "```" = false → Program.parse code = .ok program) ∧
      ∀ bare, Program.parse (unfenced reply) = .ok bare →
        (Program.parse code = .ok program ↔ bare = program) := by
  rw [protocol.saved_iff copied chosen] at saved
  have valid := protocol.valid_of_mem_texts saved
  obtain ⟨reply, answers, given⟩ := protocol.answers_of_mem_texts saved
  refine ⟨answers.text_of_valid given valid, ?_⟩
  rintro reply program rfl parsed
  constructor
  · intro plain
    exact parse_codeOf (by rwa [unfenced_of_no_fence plain]) valid
  · intro bare parsed_bare
    rw [parse_codeOf parsed_bare valid]
    exact ⟨Except.ok.inj, congrArg Except.ok⟩

/-! ## Fences in a text of the program -/

def fencedReply : String := "'in ```units```'\nRATE\n"

def fencedCode : String := "'in units'\nRATE"

def leadingText? (program : Program) : Option Constant :=
  match program.body with
  | .expression (.constant text) :: _ => some text
  | _ => none

def plainText (text : String) : Constant := .text (text.toList.map Char.toNat)

theorem fencedReply_cleaned :
    unfenced fencedReply = fencedCode ++ "\n" ∧ codeOf fencedReply = fencedCode ∧
      "RATE" ∈ globalNames (programOf fencedCode) := by decide +kernel

theorem exists_tree_of_leadingText {source : String} {text : Constant}
    (found : (Program.parse source).toOption.bind leadingText? = some text) :
    ∃ program, Program.parse source = .ok program ∧ leadingText? program = some text := by
  cases parsed : Program.parse source with
  | ok program => exact ⟨program, rfl, by rwa [parsed] at found⟩
  | error fault =>
    rw [parsed] at found
    cases found

theorem Guarded.first_mem_targetTexts {old reply : String} {replies : List Reply} {tests : List TestRun}
    (fit : judge old (codeOf reply) = none) :
    codeOf reply ∈ targetTexts old (ratedWith (.text reply :: replies) tests) := by
  have given : (ratedWith (.text reply :: replies) tests).reply.code? = some (codeOf reply) := rfl
  simp only [targetTexts, attemptLimit, fitCode_of_fit 2 given fit, List.mem_cons_self]

theorem fencedCode_mem : fencedCode ∈ Guarded.targetTexts (String.ofList Guarded.ratedChars)
    (Guarded.ratedWith [.text fencedReply] []) := by
  obtain ⟨_, cleaned, kept⟩ := fencedReply_cleaned
  have fit := Guarded.fits_of_rate kept
  rw [← cleaned] at fit ⊢
  exact Guarded.first_mem_targetTexts fit

theorem fenced_reply_saved_changed :
    Event.saved Guarded.ratedPath fencedCode ∈ (perform Guarded.campaign
        (World.start Tree.empty (Guarded.ratedWith [.text fencedReply] []))).2.events ∧
      ∃ program, Program.parse fencedReply = .ok program ∧ Program.parse fencedCode ≠ .ok program := by
  have copied := Guarded.ratedCopyWith_copied [.text fencedReply] []
  have chosen := Guarded.ratedCopyWith_target [.text fencedReply] []
  have saved : Event.saved Guarded.ratedPath fencedCode ∈ (perform Guarded.campaign
      (World.start Tree.empty (Guarded.ratedWith [.text fencedReply] []))).2.events := by
    refine (Protocol.saved_iff .guarded copied chosen).mpr ?_
    rw [Guarded.ratedCopyWith_text]
    exact fencedCode_mem
  obtain ⟨program, parsed, text⟩ := @exists_tree_of_leadingText fencedReply
    (plainText "in ```units```") (by decide +kernel)
  obtain ⟨bare, parsed_bare, bare_text⟩ := @exists_tree_of_leadingText (fencedCode ++ "\n")
    (plainText "in units") (by decide +kernel)
  rw [← fencedReply_cleaned.1] at parsed_bare
  refine ⟨saved, program, parsed, fun same => ?_⟩
  have kept := saved_tree_kept_iff .guarded Tree.empty (Guarded.ratedWith [.text fencedReply] [])
    (Guarded.ratedCopyWith [.text fencedReply] []) Guarded.ratedPath fencedCode copied chosen saved
  rw [((kept.2 fencedReply program fencedReply_cleaned.2.1 parsed).2 bare parsed_bare).mp same, text]
    at bare_text
  exact absurd (Option.some.inj bare_text) (by decide +kernel)

end Refactory.Campaign
