import Refactory.Proofs.Campaign.Action
import Refactory.Proofs.Workspace.Frame
import Refactory.Proofs.Workspace.Writing

/-! What the report on a saved text says about the files.

A text that is reported as saved is read back with its line ends unified, and it has changed no other file.
A text that is reported as not saved has changed none, though folders may have been made for it.
-/

set_option autoImplicit false

namespace Refactory

namespace Workspace.Tree

variable {tree : Tree} {path text : String}

/-- Saving without a fault writes the one file that the path leads to. -/
theorem files_of_saved (saved : (tree.saveText path text).2 = none) :
    (tree.saveText path text).1.readText path =
        .ok (Text.replace (Text.replace text "\r\n" "\n") "\r" "\n") ∧
      ∃ place, (tree.saveText path text).1.lookup path = .ok (place, .file (Text.Utf8.encode text)) ∧
        ∀ other, other ≠ place → (tree.saveText path text).1.fileAt? other = tree.fileAt? other := by
  rcases saveText_cases tree path text with ⟨_, fault, failed⟩ | ⟨place, goal, wrote, _, noNull⟩
  · rw [failed] at saved
    cases saved
  · rw [wrote, Text.replace_lineEnds]
    refine ⟨readText_written noNull goal text, place, lookup_put_writable goal text, fun other apart => ?_⟩
    have made : Frame (· = place) tree (tree.ensureFolders (Path.parent path)).1 := ensureFolders_frame tree _
    refine (made.trans (.put_file ?_ _)).fileAt?_eq apart
    rfl

/-- A fault comes before anything is written. -/
theorem files_of_unsaved {fault : Fault} (failed : (tree.saveText path text).2 = some fault) (place : Place) :
    (tree.saveText path text).1.fileAt? place = tree.fileAt? place := by
  rcases saveText_cases tree path text with ⟨same, _⟩ | ⟨_, _, _, saved, _⟩
  · rw [same]
    have frame : Frame (fun _ => False) tree (tree.ensureFolders (Path.parent path)).1 :=
      ensureFolders_frame tree _
    exact frame.fileAt?_eq not_false
  · rw [saved] at failed
    cases failed

end Workspace.Tree

namespace Campaign

open Workspace

theorem savingReport_eq_success_iff {path : String} {fault? : Option Fault} :
    savingReport path fault? = "Successfully wrote to " ++ path ↔ fault? = none := by
  cases fault? with
  | none => exact iff_of_true rfl rfl
  | some fault =>
    refine iff_of_false ?_ (Option.some_ne_none fault)
    exact Text.append_ne_append (c := 'E') (d := 'S') rfl rfl (by decide) fault.message path

/-- Saving always ends with a report. If it tells of success, the text is read back with each pair of return
and feed and each other return as a feed, and no file but the one that the path leads to has changed. If it
does not, it tells of a fault, and no file has changed. -/
theorem report_tells_saved_or_unchanged (world : World) (path text : String) :
    ∃ report after, perform (saveFile path text) world = (.ok report, after) ∧
      (report = "Successfully wrote to " ++ path →
        readOrExplain after.tree path = Text.replace (Text.replace text "\r\n" "\n") "\r" "\n" ∧
          ∃ place, after.tree.lookup path = .ok (place, .file (Text.Utf8.encode text)) ∧
            ∀ other, other ≠ place → after.tree.fileAt? other = world.tree.fileAt? other) ∧
      (report ≠ "Successfully wrote to " ++ path →
        (∃ fault : Fault, report = "Error writing file: " ++ fault.message) ∧
          ∀ place, after.tree.fileAt? place = world.tree.fileAt? place) := by
  refine ⟨_, _, perform_saveFile path text world, ?_⟩
  rw [World.save_tree, ne_eq, savingReport_eq_success_iff]
  refine ⟨fun saved => ?_, fun failed => ?_⟩
  · obtain ⟨read, written⟩ := Tree.files_of_saved saved
    refine ⟨?_, written⟩
    simp only [readOrExplain, read]
  · obtain ⟨fault, outcome⟩ := Option.ne_none_iff_exists'.mp failed
    exact ⟨⟨fault, congrArg (savingReport path) outcome⟩, Tree.files_of_unsaved outcome⟩

def shelf : Tree := Tree.empty.put (Path.home ++ ["notes"]) (.file (Text.Utf8.encode "old"))

theorem saved_beside_file_only :
    (∃ after, perform (saveFile "pkg/../pkg/list" "one\r\ntwo\rthree\n\r") (World.start shelf Script.empty) =
        (.ok (savingReport "pkg/../pkg/list" none), after) ∧
      readOrExplain after.tree "pkg/../pkg/list" = "one\ntwo\nthree\n\n") ∧
    ∃ after, perform (saveFile "notes/list" "new") (World.start shelf Script.empty) =
        (.ok (savingReport "notes/list" (some (.system .occupied "notes"))), after) ∧
      after.tree.fileAt? (Path.home ++ ["notes"]) = shelf.fileAt? (Path.home ++ ["notes"]) := by
  have outcomes : (shelf.saveText "pkg/../pkg/list" "one\r\ntwo\rthree\n\r").2 = none ∧
      (shelf.saveText "notes/list" "new").2 = some (.system .occupied "notes") ∧
      Text.replace (Text.replace "one\r\ntwo\rthree\n\r" "\r\n" "\n") "\r" "\n" = "one\ntwo\nthree\n\n" := by
    decide +kernel
  obtain ⟨saved, refused, unified⟩ := outcomes
  obtain ⟨report, after, done, success, _⟩ := report_tells_saved_or_unchanged (World.start shelf Script.empty)
    "pkg/../pkg/list" "one\r\ntwo\rthree\n\r"
  obtain ⟨told, later, ended, _, failure⟩ := report_tells_saved_or_unchanged (World.start shelf Script.empty)
    "notes/list" "new"
  have good := Except.ok.inj (congrArg Prod.fst (done.symm.trans (perform_saveFile ..)))
  have bad := Except.ok.inj (congrArg Prod.fst (ended.symm.trans (perform_saveFile ..)))
  rw [show (World.start shelf Script.empty).tree = shelf from rfl, saved] at good
  rw [show (World.start shelf Script.empty).tree = shelf from rfl, refused] at bad
  subst good bad
  refine ⟨⟨after, done, (success rfl).1.trans unified⟩, later, ended, (failure ?_).2 _⟩
  exact mt savingReport_eq_success_iff.mp (Option.some_ne_none _)

end Campaign

end Refactory
