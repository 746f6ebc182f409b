import Refactory.Proofs.Campaign.Replay
import Refactory.Proofs.Source.Sentence
import Refactory.Proofs.Text.Utf8
import Refactory.Proofs.Workspace.Saving

/-! What a campaign does to a target that is no text.

The reason why the target could not be read takes the place of its text. It is no program, so it has no
global names, and any program is taken for it: the target survives only if no reply is a program.
-/

set_option autoImplicit false

namespace Refactory.Campaign

open Workspace Analysis Source

/-! ## The target is a file -/

theorem slash_mem_join {folder : String} (some_folder : folder ≠ "") (name : String) :
    '/' ∈ (Path.join folder name).toList := by
  unfold Path.join
  split
  · next bare =>
    rcases Bool.or_eq_true_iff.mp bare with empty | slash
    · exact absurd (of_decide_eq_true empty) some_folder
    · rw [String.toList_append]
      exact List.mem_append_left _ ((Path.endsInSlash_iff.mp slash).subset List.mem_cons_self)
  · simp

theorem folder_ne_empty {tree : Tree} (depth : Nat) {path : String} {visit : Visit}
    (visited : visit ∈ tree.visitsWithin depth path) : visit.folder ≠ "" := by
  induction depth generalizing path with
  | zero => cases visited
  | succ depth ih =>
    rw [Tree.visitsWithin] at visited
    split at visited
    · next place found =>
      rcases List.mem_cons.mp visited with rfl | inner
      · exact (Tree.find_eq_ok_iff.mp (Tree.lookup_eq_ok_iff.mp found)).1
      · obtain ⟨name, _, deeper⟩ := List.mem_flatMap.mp inner
        exact ih deeper
    · cases visited

theorem slash_mem_of_sourceFile {tree : Tree} {folder path : String}
    (listed : path ∈ sourceFiles tree folder) : '/' ∈ path.toList := by
  obtain ⟨visit, visited, found⟩ := List.mem_flatMap.mp listed
  split at found
  · exact absurd found List.not_mem_nil
  · obtain ⟨name, _, rfl⟩ := List.mem_map.mp found
    exact slash_mem_join (folder_ne_empty _ visited) name

theorem savable_of_sourceFile {tree : Tree} {folder path : String} {size : Nat}
    (listed : path ∈ sourceFiles tree folder) (counted : tree.byteCount path = .ok size)
    (some_byte : 0 < size) :
    Tree.Savable path ∧ ∃ place bytes, tree.lookup path = .ok (place, .file bytes) := by
  obtain ⟨noNull, found⟩ := Tree.lookup_of_byteCount counted some_byte
  refine ⟨⟨noNull, ?_, Path.parent_ne_empty (slash_mem_of_sourceFile listed)⟩, found⟩
  -- the path ends in the ending of source files, and not in a slash
  have source := endsWith_of_mem_sourceFiles listed
  unfold Text.endsWith at source
  rw [List.isSuffixOf_iff_suffix] at source
  rw [← Bool.not_eq_true, Path.endsInSlash_iff]
  intro slash
  have last := List.suffix_or_suffix_of_suffix slash source
  revert last
  decide

theorem Protocol.target_file (protocol : Protocol) {tree : Tree} {target : String}
    (chosen : protocol.target? tree = some target) :
    Tree.Savable target ∧ ∃ place bytes, tree.lookup target = .ok (place, .file bytes) := by
  cases protocol with
  | guarded =>
    have eligible := Guarded.eligible_of_target chosen
    unfold Guarded.isEligible at eligible
    split at eligible
    · next size counted =>
      have large : Guarded.leastSize ≤ size := by simpa using (Bool.and_eq_true_iff.mp eligible).1
      exact savable_of_sourceFile (Guarded.mem_sourceFiles_of_target chosen) counted
        (Nat.lt_of_lt_of_le (by decide) large)
    · cases eligible
  | single =>
    have eligible := Single.large_of_target chosen
    unfold Single.isLarge at eligible
    split at eligible
    · next size counted =>
      have large : Single.leastSize ≤ size := by simpa using eligible
      exact savable_of_sourceFile (Single.mem_sourceFiles_of_target chosen) counted
        (Nat.lt_of_lt_of_le (by decide) large)
    · cases eligible

/-! ## Saved files hold texts -/

theorem replay_cons_save (tree : Tree) (path text : String) (rest : List Event) :
    replay tree (.saved path text :: rest) = replay (tree.saveText path text).1 rest := by
  simp only [replay, savesOf_saved, List.foldl_cons]

theorem replay_grows (tree : Tree) (events : List Event) : Tree.Grows tree (replay tree events) := by
  unfold replay
  induction savesOf events generalizing tree with
  | nil => exact .refl tree
  | cons save rest ih =>
    rw [List.foldl_cons]
    exact (Tree.saveText_grows tree save.1 save.2).trans (ih _)

/-- Once a text has been saved to a file, it holds a text for good. -/
theorem replay_text {tree : Tree} {path text : String} {place : Place} {bytes : List UInt8}
    (savable : Tree.Savable path) (found : tree.lookup path = .ok (place, .file bytes))
    {events : List Event} (saved : .saved path text ∈ events) :
    ∃ later, (replay tree events).lookup path = .ok (place, .file (Text.Utf8.encode later)) := by
  obtain ⟨earlier, rest, rfl⟩ := List.append_of_mem saved
  obtain ⟨before, _, there⟩ := Tree.lookup_grow (replay_grows tree earlier) found
  have written := Tree.lookup_saveText savable there text
  rw [replay_append, replay_cons_save]
  exact Tree.lookup_grow_text (replay_grows _ rest) written

/-! ## A text that cannot be read has no names to keep -/

/-- The reason why there is no text is no program. -/
theorem explanation_unparsed {tree : Tree} {path : String} {fault : Workspace.Fault}
    (unreadable : tree.readText path = .error fault) :
    (Program.parse (readOrExplain tree path)).isOk = false := by
  have explained : readOrExplain tree path = "Error reading file: " ++ fault.message := by
    simp only [readOrExplain, unreadable]
  have spelled : (readOrExplain tree path).toList =
      "Error".toList ++ ' ' :: ("reading".toList ++ ' ' :: ("file: ".toList ++ fault.message.toList)) := by
    rw [explained, String.toList_append]
    rfl
  have error : PlainWord "Error".toList := ⟨by decide, List.all_eq_true.mp (by decide), by decide⟩
  have reading : PlainWord "reading".toList := ⟨by decide, List.all_eq_true.mp (by decide), by decide⟩
  exact parse_of_words spelled error (by decide) reading (by decide) (by decide) (by decide)

theorem globalNamesOfText_unparsed {old : String} (unparsed : (Program.parse old).isOk = false) :
    globalNamesOfText old = [] := by
  unfold globalNamesOfText
  revert unparsed
  cases Program.parse old with
  | ok program => exact nofun
  | error error => exact fun _ => rfl

theorem accepted_of_unparsed {old code : String} (unparsed : (Program.parse old).isOk = false)
    (valid : (checkSyntax code).isValid = true) : (checkScope old code).isAccepted = true := by
  unfold checkSyntax at valid
  unfold checkScope
  rw [globalNamesOfText_unparsed unparsed]
  revert valid
  cases Program.parse code with
  | ok program => exact fun _ => rfl
  | error error => exact nofun

theorem Protocol.fits_of_unparsed (protocol : Protocol) {old : String}
    (unparsed : (Program.parse old).isOk = false) (code : String) :
    protocol.fits old code = true ↔ (checkSyntax code).isValid = true := by
  cases protocol with
  | guarded =>
    rw [fits, Option.isNone_iff_eq_none, Guarded.judge_eq_none_iff]
    exact ⟨And.left, fun valid => ⟨valid, accepted_of_unparsed unparsed valid⟩⟩
  | single => exact Iff.rfl

theorem readBytes_ne_text {tree : Tree} {path : String} {fault : Workspace.Fault} {bytes : List UInt8}
    (unreadable : tree.readText path = .error fault) (found : tree.readBytes path = .ok bytes) (text : String) :
    bytes ≠ Text.Utf8.encode text := by
  rintro rfl
  unfold Tree.readText at unreadable
  rw [found] at unreadable
  change ((Text.Utf8.decode (Text.Utf8.encode text)).mapError Workspace.Fault.encoding >>= fun text =>
    pure (String.ofList (Text.unifyLineEnds text.toList))) = _ at unreadable
  rw [Text.Utf8.decode_encode] at unreadable
  cases unreadable

/-- A target that cannot be read keeps its bytes exactly if no reply before a commit is a program. -/
theorem unreadable_target_kept_iff (protocol : Protocol) {tree : Tree} {script : Script} {copy : World}
    {target : String} {fault : Workspace.Fault}
    (copied : Copied protocol.opening (World.start tree script) copy)
    (chosen : protocol.target? copy.tree = some target)
    (unreadable : copy.tree.readText target = .error fault) :
    (perform protocol.campaign (World.start tree script)).2.tree.readBytes target =
        copy.tree.readBytes target ↔
      ∀ code ∈ offered protocol.attempts script, (checkSyntax code).isValid = false := by
  have texts := protocol.run_texts copied chosen
  have saves : protocol.texts (readOrExplain copy.tree target) script ≠ [] ↔
      ∃ code ∈ offered protocol.attempts script, (checkSyntax code).isValid = true := by
    rw [protocol.texts_ne_nil_iff]
    simp only [protocol.fits_of_unparsed (explanation_unparsed unreadable)]
  constructor
  · intro kept code given
    rw [← Bool.not_eq_true]
    intro valid
    -- a text was saved to the file, and the file still holds one
    obtain ⟨savable, place, bytes, found⟩ := protocol.target_file chosen
    obtain ⟨text, member⟩ := List.exists_mem_of_ne_nil _ (saves.mpr ⟨code, given, valid⟩)
    rw [← texts, mem_textsFor] at member
    obtain ⟨events, leads⟩ := protocol.campaign_leads copied
    have saved : .saved target text ∈ events := by
      rw [leads.record, List.mem_append] at member
      refine member.resolve_left fun early => ?_
      rw [← mem_textsFor, copied.quiet.texts] at early
      exact absurd early List.not_mem_nil
    obtain ⟨later, holds⟩ := replay_text savable found saved
    rw [leads.tree, Tree.readBytes_of_lookup savable.noNull holds,
      Tree.readBytes_of_lookup savable.noNull found] at kept
    exact readBytes_ne_text unreadable (Tree.readBytes_of_lookup savable.noNull found) later
      (Except.ok.inj kept).symm
  · intro invalid
    have untouched : (perform protocol.campaign (World.start tree script)).2.tree = copy.tree := by
      apply protocol.tree_of_no_texts copied
      intro other same
      obtain rfl : target = other := Option.some.inj (chosen.symm.trans same)
      apply Classical.byContradiction
      intro some_text
      obtain ⟨code, given, valid⟩ := saves.mp some_text
      rw [invalid code given] at valid
      cases valid
    rw [untouched]

/-! ## A file that is no text -/

def garbledScript : Script := { Script.empty with
  clone := [("binary_search.py", .file (0xFF :: List.replicate 600 0x23))]
  replies := [.text "x = 1"] }

def garbledPath : String := "temp_repo/binary_search.py"

def garbledCopy : World :=
  (perform (do announce Guarded.opening; cloneRepository repositoryAddress repositoryFolder)
    (World.start Tree.empty garbledScript)).2

theorem garbledCopy_copied :
    Copied Guarded.opening (World.start Tree.empty garbledScript) garbledCopy := by
  have ended : (perform (do announce Guarded.opening; cloneRepository repositoryAddress repositoryFolder)
      (World.start Tree.empty garbledScript)).1.toOption = some repositoryFolder := by decide +kernel
  exact Prod.ext (eq_ok_of_toOption ended) rfl

theorem garbledCopy_target : Guarded.target? garbledCopy.tree = some garbledPath := by decide +kernel

theorem garbled_target_lost :
    (garbledCopy.tree.readText garbledPath).isOk = false ∧
      (perform Guarded.campaign (World.start Tree.empty garbledScript)).2.tree.readBytes garbledPath ≠
        garbledCopy.tree.readBytes garbledPath := by
  have unread : (garbledCopy.tree.readText garbledPath).isOk = false := by decide +kernel
  refine ⟨unread, fun kept => ?_⟩
  have program : "x = 1" ∈ offered Guarded.attemptLimit garbledScript ∧
      (checkSyntax "x = 1").isValid = true := by decide +kernel
  cases read : garbledCopy.tree.readText garbledPath with
  | ok text =>
    rw [read] at unread
    cases unread
  | error fault =>
    have refused := (unreadable_target_kept_iff .guarded garbledCopy_copied garbledCopy_target read).mp kept
      "x = 1" program.1
    rw [program.2] at refused
    cases refused

end Refactory.Campaign
