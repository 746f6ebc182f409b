import Refactory.Campaign.Guarded
import Refactory.Campaign.Single
import Refactory.Proofs.Text.Search

/-! The file that a campaign works on.

It is a source file of the copy, so the path of its tests is another one.
-/

set_option autoImplicit false

namespace Refactory.Campaign

open Workspace Analysis

theorem endsWith_join {name ending : String} (folder : String) (ends : Text.endsWith name ending = true) :
    Text.endsWith (Path.join folder name) ending = true := by
  unfold Text.endsWith at ends ⊢
  rw [List.isSuffixOf_iff_suffix] at ends ⊢
  unfold Path.join
  split
  · rw [String.toList_append]
    exact ends.trans (List.suffix_append ..)
  · rw [String.toList_append]
    exact ends.trans (List.suffix_append ..)

theorem endsWith_of_mem_sourceFiles {tree : Tree} {folder path : String}
    (listed : path ∈ sourceFiles tree folder) : Text.endsWith path ".py" = true := by
  obtain ⟨visit, _, found⟩ := List.mem_flatMap.mp listed
  split at found
  · exact absurd found List.not_mem_nil
  · obtain ⟨name, kept, rfl⟩ := List.mem_map.mp found
    have source := (Bool.and_eq_true _ _ ▸ (List.mem_filter.mp kept).2).1
    exact endsWith_join visit.folder source

/-- The tests of a source file are kept at a path of their own. -/
theorem testPath_ne {path : String} (source : Text.endsWith path ".py" = true) :
    testPath path ≠ path :=
  -- the path is that of the file with a longer text in place of the ending
  Text.replace_ne (by decide) (by decide) (Text.contains_of_endsWith source)

namespace Guarded

theorem Scan.mem_queue_take {tree : Tree} {scan : Scan} {path target : String}
    (member : target ∈ (scan.take tree path).queue) : target ∈ scan.queue ∨ target = path := by
  unfold Scan.take at member
  split at member
  · exact Or.inl member
  · split at member
    · exact Or.inl member
    · split at member
      · exact (List.mem_cons.mp member).symm
      · split at member
        · exact (List.mem_append.mp member).imp_right List.mem_singleton.mp
        · exact Or.inl member

theorem mem_foldl_take {tree : Tree} {target : String} (files : List String) (scan : Scan)
    (member : target ∈ (files.foldl (Scan.take tree) scan).queue) :
    target ∈ scan.queue ∨ target ∈ files := by
  induction files generalizing scan with
  | nil => exact Or.inl member
  | cons path rest ih =>
    rcases ih (scan.take tree path) member with earlier | later
    · rcases Scan.mem_queue_take earlier with before | rfl
      · exact Or.inl before
      · exact Or.inr List.mem_cons_self
    · exact Or.inr (List.mem_cons_of_mem path later)

def target? (tree : Tree) : Option String :=
  (scanFiles tree (sourceFiles tree repositoryFolder)).queue.head?

theorem mem_sourceFiles_of_target {tree : Tree} {target : String} (chosen : target? tree = some target) :
    target ∈ sourceFiles tree repositoryFolder := by
  have queued := List.mem_of_head? chosen
  rcases mem_foldl_take _ _ queued with none_yet | scanned
  · exact absurd none_yet List.not_mem_nil
  · exact List.mem_of_mem_take scanned

theorem Scan.eligible_take {tree : Tree} {scan : Scan} (path : String)
    (all : ∀ target ∈ scan.queue, isEligible tree target = true) :
    ∀ target ∈ (scan.take tree path).queue, isEligible tree target = true := by
  intro target member
  by_cases eligible : isEligible tree path = true
  · rcases Scan.mem_queue_take member with before | rfl
    · exact all target before
    · exact eligible
  · have same : scan.take tree path = scan := by
      unfold Scan.take
      simp [eligible]
    exact all target (same ▸ member)

theorem eligible_foldl_take {tree : Tree} (files : List String) {scan : Scan}
    (all : ∀ target ∈ scan.queue, isEligible tree target = true) :
    ∀ target ∈ (files.foldl (Scan.take tree) scan).queue, isEligible tree target = true := by
  induction files generalizing scan with
  | nil => exact all
  | cons path rest ih => exact ih (Scan.eligible_take path all)

theorem eligible_of_target {tree : Tree} {target : String} (chosen : target? tree = some target) :
    isEligible tree target = true :=
  eligible_foldl_take _ (fun _ member => absurd member List.not_mem_nil) target (List.mem_of_head? chosen)

end Guarded

namespace Single

def target? (tree : Tree) : Option String :=
  (scanFiles tree (sourceFiles tree repositoryFolder)).head?

theorem mem_sourceFiles_of_target {tree : Tree} {target : String} (chosen : target? tree = some target) :
    target ∈ sourceFiles tree repositoryFolder := by
  have listed := List.mem_of_head? chosen
  have measured := (List.mem_filter.mp listed).1
  exact (List.mem_filter.mp (List.mem_of_mem_take measured)).1

theorem large_of_target {tree : Tree} {target : String} (chosen : target? tree = some target) :
    isLarge tree target = true := by
  have measured := (List.mem_filter.mp (List.mem_of_head? chosen)).1
  exact (List.mem_filter.mp (List.mem_of_mem_take measured)).2

end Single

end Refactory.Campaign
