import Refactory.Proofs.Analysis.Scope
import Refactory.Proofs.Campaign.Guarded
import Refactory.Proofs.Campaign.Single

/-! What the campaigns let reach their target.

Both save only programs, and change no file before they commit. The guarded campaign also keeps the
global names of the old text when it commits, but not when it repairs.
-/

set_option autoImplicit false

namespace Refactory.Campaign

open Workspace Analysis Source

namespace Guarded

/-! ## Global names -/

def repairTexts (old : String) (script : Script) : List String :=
  match fitCode old attemptLimit script with
  | none => []
  | some (_, rest) => patchesAfterCommit rest

/-- The texts for the target are none, or a first one that keeps the global names and the patches. -/
theorem targetTexts_cases (old : String) (script : Script) :
    targetTexts old script = [] ∧ repairTexts old script = [] ∨
      ∃ code, (checkScope old code).isAccepted = true ∧
        targetTexts old script = code :: repairTexts old script := by
  unfold targetTexts repairTexts
  cases found : fitCode old attemptLimit script with
  | none => exact Or.inl ⟨rfl, rfl⟩
  | some fit =>
    obtain ⟨code, rest⟩ := fit
    have accepted := ((judge_eq_none_iff old code).mp (judge_of_fitCode found)).2
    exact Or.inr ⟨code, accepted, rfl⟩

theorem repairTexts_of_fit {old code : String} {script : Script} (given : script.reply.code? = some code)
    (fit : judge old code = none) : repairTexts old script = patchesAfterCommit script.afterReply := by
  simp only [repairTexts, attemptLimit, fitCode_of_fit 2 given fit]

/-- The first text for the target always keeps the global names of the old one. So all of them do
exactly when the patches do, which the repair stage does not ask for. -/
theorem saved_texts_accepted_iff {tree : Tree} {script : Script} {copy : World} {target : String}
    (copied : Copied opening (World.start tree script) copy) (chosen : target? copy.tree = some target) :
    (∀ text, Event.saved target text ∈ (perform campaign (World.start tree script)).2.events →
      (checkScope (readOrExplain copy.tree target) text).isAccepted = true) ↔
    ∀ patch ∈ repairTexts (readOrExplain copy.tree target) script,
      (checkScope (readOrExplain copy.tree target) patch).isAccepted = true := by
  have texts : textsFor target (perform campaign (World.start tree script)).2.events =
      targetTexts (readOrExplain copy.tree target) script := campaign_texts copied chosen
  simp only [← mem_textsFor, texts]
  -- the first text was judged, so only the patches are in question
  rcases targetTexts_cases (readOrExplain copy.tree target) script with
    ⟨none_saved, no_patch⟩ | ⟨code, first, all⟩
  · rw [none_saved, no_patch]
  · rw [all]
    constructor
    · intro kept patch later
      exact kept patch (List.mem_cons_of_mem code later)
    · intro kept text member
      rcases List.mem_cons.mp member with rfl | later
      · exact first
      · exact kept text later

/-! ## A patch that drops a global name -/

def ratedChars : List Char :=
  "def total(price):\n    return price * RATE\n# ".toList ++ List.replicate 115 '🚀'

def ratedCode : String := "def total(price):\n    return RATE * price"

def ratelessPatch : String := "def total(price):\n    return price"

def rateScript : Script := { Script.empty with
  clone := [("binary_search.py", .file (ratedChars.flatMap String.utf8EncodeChar))]
  replies := [.text ratedCode, .text "assert True", .text "assert True", .text ratelessPatch]
  tests := [.finished 1 "1 failed" "", .finished 1 "1 failed" "", .finished 0 "1 passed" ""] }

def ratedPath : String := "temp_repo/binary_search.py"

def ratedCopy : World :=
  (perform (do announce opening; cloneRepository repositoryAddress repositoryFolder)
    (World.start Tree.empty rateScript)).2

-- One evaluation for all that is said of the copy: making it takes most of the time.
theorem ratedCopy_holds :
    (perform (do announce opening; cloneRepository repositoryAddress repositoryFolder)
        (World.start Tree.empty rateScript)).1.toOption = some repositoryFolder ∧
      target? ratedCopy.tree = some ratedPath ∧
      (ratedCopy.tree.readBytes ratedPath).toOption = some (ratedChars.flatMap String.utf8EncodeChar) ∧
      (Text.Utf8.decodeFrom 0 ⟨0, [], []⟩ (ratedChars.flatMap String.utf8EncodeChar) []).toOption =
        some ratedChars ∧
      Text.unifyLineEnds ratedChars = ratedChars := by
  decide +kernel

theorem ratedCopy_copied : Copied opening (World.start Tree.empty rateScript) ratedCopy :=
  Prod.ext (eq_ok_of_toOption ratedCopy_holds.1) rfl

theorem ratedCopy_target : target? ratedCopy.tree = some ratedPath := ratedCopy_holds.2.1

-- The text of the file is kept as characters: evaluating goes through them, and taking a long string
-- apart again is slow.
theorem readText_of_bytes {tree : Tree} {path : String} {bytes : List UInt8} {chars : List Char}
    (found : tree.readBytes path = .ok bytes)
    (spelled : Text.Utf8.decodeFrom 0 ⟨0, [], []⟩ bytes [] = .ok chars) :
    tree.readText path = .ok (String.ofList (Text.unifyLineEnds chars)) := by
  have decoded : Text.Utf8.decode bytes = .ok (String.ofList chars) := by
    rw [Text.Utf8.decode, spelled]
    rfl
  have read : tree.readText path =
      .ok (String.ofList (Text.unifyLineEnds (String.ofList chars).toList)) := by
    unfold Tree.readText
    rw [found]
    change ((Text.Utf8.decode bytes).mapError Fault.encoding >>= fun text =>
      pure (String.ofList (Text.unifyLineEnds text.toList))) = _
    rw [decoded]
    rfl
  rwa [String.toList_ofList] at read

theorem readOrExplain_of_bytes {tree : Tree} {path : String} {bytes : List UInt8} {chars : List Char}
    (found : tree.readBytes path = .ok bytes)
    (spelled : Text.Utf8.decodeFrom 0 ⟨0, [], []⟩ bytes [] = .ok chars) :
    readOrExplain tree path = String.ofList (Text.unifyLineEnds chars) := by
  simp only [readOrExplain, readText_of_bytes found spelled]

theorem ratedCopy_text : readOrExplain ratedCopy.tree ratedPath = String.ofList ratedChars := by
  obtain ⟨_, _, found, spelled, kept⟩ := ratedCopy_holds
  rw [readOrExplain_of_bytes (eq_ok_of_toOption found) (eq_ok_of_toOption spelled), kept]

def ratedWith (replies : List Reply) (tests : List TestRun) : Script := { rateScript with replies, tests }

def ratedCopyWith (replies : List Reply) (tests : List TestRun) : World :=
  { ratedCopy with script := ratedWith replies tests }

section OtherAnswers

variable (replies : List Reply) (tests : List TestRun)

-- The copy takes no answer, so it can be made without knowing them.
theorem ratedCopyWith_copied : Copied opening (World.start Tree.empty (ratedWith replies tests))
    (ratedCopyWith replies tests) := by
  unfold Copied
  with_unfolding_all rfl

theorem ratedCopyWith_tree : (ratedCopyWith replies tests).tree = ratedCopy.tree := by
  rw [ratedCopyWith]

theorem ratedCopyWith_target : target? (ratedCopyWith replies tests).tree = some ratedPath := by
  rw [ratedCopyWith_tree, ratedCopy_target]

theorem ratedCopyWith_text :
    readOrExplain (ratedCopyWith replies tests).tree ratedPath = String.ofList ratedChars := by
  rw [ratedCopyWith_tree, ratedCopy_text]

end OtherAnswers

theorem rated_globals : globalNamesOfText (String.ofList ratedChars) = ["RATE"] :=
  (globalNamesOfText_ofList ratedChars).trans (by decide +kernel)

theorem rated_rejected_iff {new : String} (parses : (Program.parse new).isOk = true) :
    (checkScope (String.ofList ratedChars) new).isAccepted = false ↔
      ¬ UsesGlobally (programOf new) "RATE" ∧ ¬ Takes (programOf new) "RATE" := by
  rw [rejected_iff (parse_eq_programOf parses), rated_globals]
  simp only [List.mem_singleton, exists_eq_left]

theorem isValid_of_isOk {text : String} (parses : (Program.parse text).isOk = true) :
    (checkSyntax text).isValid = true := by
  unfold checkSyntax
  cases parsed : Program.parse text with
  | ok found => rfl
  | error fault =>
    rw [parsed] at parses
    cases parses

theorem fits_of_rate {new : String} (used : "RATE" ∈ globalNames (programOf new)) :
    judge (String.ofList ratedChars) new = none := by
  have parses := isOk_of_mem_globalNames used
  have valid := isValid_of_isOk parses
  have accepted : (checkScope (String.ofList ratedChars) new).isAccepted = true := by
    rw [← Bool.not_eq_false, rated_rejected_iff parses]
    exact fun dropped => dropped.1 (mem_globalNames.mp used)
  exact (judge_eq_none_iff _ _).mpr ⟨valid, accepted⟩

theorem rated_codes :
    (codeOf ratedCode = ratedCode ∧ "RATE" ∈ globalNames (programOf ratedCode)) ∧
      codeOf ratelessPatch = ratelessPatch ∧ (Program.parse ratelessPatch).isOk = true ∧
      ¬ Reads (programOf ratelessPatch) "RATE" ∧ ¬ Takes (programOf ratelessPatch) "RATE" := by
  decide +kernel

theorem ratedCode_keeps : codeOf ratedCode = ratedCode ∧ "RATE" ∈ globalNames (programOf ratedCode) :=
  rated_codes.1

theorem ratedCode_fits : judge (String.ofList ratedChars) ratedCode = none := fits_of_rate ratedCode_keeps.2

theorem rateScript_given : rateScript.reply.code? = some ratedCode := congrArg some ratedCode_keeps.1

theorem failed_run_shown : showsOnlySuccess (TestRun.finished 1 "1 failed" "").report = false := by decide

theorem passed_run_shown : showsOnlySuccess (TestRun.finished 0 "1 passed" "").report = true := by decide

theorem rated_repairTexts : repairTexts (String.ofList ratedChars) rateScript = [ratelessPatch] := by
  obtain ⟨_, same, parses, _⟩ := rated_codes
  have given (text : String) : (Reply.text text).code? = some (codeOf text) := rfl
  rw [repairTexts_of_fit rateScript_given ratedCode_fits]
  simp only [patchesAfterCommit, rateScript, Script.afterReply, Script.reply, Script.afterTestRun,
    Script.testRun, List.tail_cons, List.headD_cons, given, repairLimit, patches, failed_run_shown,
    passed_run_shown, same, isValid_of_isOk parses]
  simp

theorem rateless_patch_saved :
    Copied opening (World.start Tree.empty rateScript) ratedCopy ∧
      target? ratedCopy.tree = some ratedPath ∧
      ¬ ∀ text, Event.saved ratedPath text ∈
          (perform campaign (World.start Tree.empty rateScript)).2.events →
        (checkScope (readOrExplain ratedCopy.tree ratedPath) text).isAccepted = true := by
  obtain ⟨_, _, parses, unread, untaken⟩ := rated_codes
  refine ⟨ratedCopy_copied, ratedCopy_target, fun kept => ?_⟩
  have patches := (saved_texts_accepted_iff ratedCopy_copied ratedCopy_target).mp kept
  rw [ratedCopy_text, rated_repairTexts] at patches
  have accepted := patches _ (List.mem_singleton_self _)
  have rejected := (rated_rejected_iff parses).mpr ⟨fun used => unread used.read, untaken⟩
  rw [accepted] at rejected
  cases rejected

end Guarded

/-! ## Programs only -/

inductive Protocol where
  | guarded
  | single
  deriving DecidableEq, Repr

namespace Protocol

def opening : Protocol → String
  | .guarded => Guarded.opening
  | .single => Single.opening

def campaign : Protocol → Action Unit
  | .guarded => Guarded.campaign
  | .single => Single.campaign

def target? : Protocol → Tree → Option String
  | .guarded => Guarded.target?
  | .single => Single.target?

def attempts : Protocol → Nat
  | .guarded => Guarded.attemptLimit
  | .single => 1

def fits : Protocol → String → String → Bool
  | .guarded, old, code => (Guarded.judge old code).isNone
  | .single, _, code => (checkSyntax code).isValid

def texts : Protocol → String → Script → List String
  | .guarded, old, script => Guarded.targetTexts old script
  | .single, _, script => (Single.fitCode script).toList

variable (protocol : Protocol)

theorem campaign_texts {world copy : World} {target : String}
    (copied : Copied protocol.opening world copy) (chosen : protocol.target? copy.tree = some target) :
    textsFor target (perform protocol.campaign world).2.events =
      textsFor target world.events ++ protocol.texts (readOrExplain copy.tree target) world.script := by
  cases protocol with
  | guarded => exact Guarded.campaign_texts copied chosen
  | single => exact Single.campaign_texts copied chosen

/-- A run from the start has an empty record before it, so its texts are all there are. -/
theorem run_texts {tree : Tree} {script : Script} {copy : World} {target : String}
    (copied : Copied protocol.opening (World.start tree script) copy)
    (chosen : protocol.target? copy.tree = some target) :
    textsFor target (perform protocol.campaign (World.start tree script)).2.events =
      protocol.texts (readOrExplain copy.tree target) script :=
  protocol.campaign_texts copied chosen

theorem saved_iff {tree : Tree} {script : Script} {copy : World} {target text : String}
    (copied : Copied protocol.opening (World.start tree script) copy)
    (chosen : protocol.target? copy.tree = some target) :
    Event.saved target text ∈ (perform protocol.campaign (World.start tree script)).2.events ↔
      text ∈ protocol.texts (readOrExplain copy.tree target) script := by
  rw [← mem_textsFor, protocol.run_texts copied chosen]

theorem valid_of_mem_texts {old text : String} {script : Script}
    (member : text ∈ protocol.texts old script) : (checkSyntax text).isValid = true := by
  cases protocol with
  | guarded => exact Guarded.valid_of_mem_targetTexts member
  | single => exact (Option.filter_eq_some_iff.mp (Option.mem_toList.mp member)).2

/-- There is a text exactly if some reply fits. -/
theorem texts_ne_nil_iff (old : String) (script : Script) :
    protocol.texts old script ≠ [] ↔
      ∃ code ∈ offered protocol.attempts script, protocol.fits old code = true := by
  cases protocol with
  | guarded =>
    rw [texts, ne_eq, Guarded.targetTexts_eq_nil_iff, Guarded.fitCode_eq_none_iff]
    simp [attempts, fits]
  | single =>
    rw [texts, Single.fitCode, attempts]
    cases given : script.reply.code? <;> simp [offered, fits, given]

/-- A run without a text for the target changes no file of the copy. -/
theorem tree_of_no_texts {world copy : World} (copied : Copied protocol.opening world copy)
    (none_fit : ∀ target, protocol.target? copy.tree = some target →
      protocol.texts (readOrExplain copy.tree target) world.script = []) :
    (perform protocol.campaign world).2.tree = copy.tree := by
  cases protocol with
  | guarded =>
    apply Guarded.campaign_tree copied
    intro target chosen
    exact Guarded.targetTexts_eq_nil_iff.mp (none_fit target chosen)
  | single =>
    apply Single.campaign_tree copied
    intro target chosen
    exact Option.toList_eq_nil_iff.mp (none_fit target chosen)

end Protocol

/-- Only programs are saved for the target, and some are saved exactly if a reply fits. A run that saves
none leaves all files as they were copied. -/
theorem commits_programs_only (protocol : Protocol) {tree : Tree} {script : Script} {copy : World}
    (copied : Copied protocol.opening (World.start tree script) copy) :
    (∀ target text, protocol.target? copy.tree = some target →
      Event.saved target text ∈ (perform protocol.campaign (World.start tree script)).2.events →
      (checkSyntax text).isValid = true) ∧
    (∀ target, protocol.target? copy.tree = some target →
      ((∃ text, Event.saved target text ∈
          (perform protocol.campaign (World.start tree script)).2.events) ↔
        ∃ code ∈ offered protocol.attempts script,
          protocol.fits (readOrExplain copy.tree target) code = true)) ∧
    ((∀ target text, protocol.target? copy.tree = some target →
        Event.saved target text ∉ (perform protocol.campaign (World.start tree script)).2.events) →
      (perform protocol.campaign (World.start tree script)).2.tree = copy.tree) := by
  -- a run starts with an empty record, so its texts are all there are
  have texts (target : String) (chosen : protocol.target? copy.tree = some target) :
      textsFor target (perform protocol.campaign (World.start tree script)).2.events =
        protocol.texts (readOrExplain copy.tree target) script :=
    protocol.campaign_texts copied chosen
  simp only [← mem_textsFor]
  refine ⟨?_, ?_, ?_⟩
  · intro target text chosen member
    rw [texts target chosen] at member
    exact protocol.valid_of_mem_texts member
  · intro target chosen
    rw [texts target chosen, ← protocol.texts_ne_nil_iff]
    exact ⟨fun ⟨text, member⟩ => List.ne_nil_of_mem member, List.exists_mem_of_ne_nil _⟩
  · intro untouched
    apply protocol.tree_of_no_texts copied
    intro target chosen
    have empty := untouched target
    rw [texts target chosen] at empty
    exact List.eq_nil_iff_forall_not_mem.mpr fun text => empty text chosen

theorem rated_run_saves_programs :
    (∀ text, Event.saved Guarded.ratedPath text ∈
        (perform Guarded.campaign (World.start Tree.empty Guarded.rateScript)).2.events →
      (checkSyntax text).isValid = true) ∧
    ∃ text, Event.saved Guarded.ratedPath text ∈
      (perform Guarded.campaign (World.start Tree.empty Guarded.rateScript)).2.events := by
  obtain ⟨programs, commits, _⟩ := commits_programs_only .guarded Guarded.ratedCopy_copied
  refine ⟨fun text => programs Guarded.ratedPath text Guarded.ratedCopy_target, ?_⟩
  apply (commits Guarded.ratedPath Guarded.ratedCopy_target).mpr
  refine ⟨Guarded.ratedCode, ?_, ?_⟩
  · simp [Protocol.attempts, Guarded.attemptLimit, offered, Guarded.rateScript_given]
  · rw [Guarded.ratedCopy_text, Protocol.fits, Guarded.ratedCode_fits]
    rfl

end Refactory.Campaign
