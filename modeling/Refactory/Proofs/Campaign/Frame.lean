import Refactory.Proofs.Campaign.Unreadable
import Refactory.Proofs.Workspace.Frame

/-! The files that a campaign leaves alone.

A campaign writes its target and the tests. The path of the tests is the path of the target with something
else in place of every ending of source files that is in it, so the tests are saved beside the target only
if there is no such text but the ending.
-/

set_option autoImplicit false

namespace Refactory.Campaign

open Workspace Analysis

/-! ## The path of the tests -/

theorem toList_testPath (path : String) :
    (testPath path).toList = Text.replaceFrom ".py".toList "_reaper_test.py".toList 0 path.toList := by
  rw [testPath, Text.replace, String.toList_ofList]

theorem testPath_append_ending (start : String) :
    testPath (start ++ ".py") = testPath start ++ "_reaper_test.py" := by
  rw [← String.toList_inj, toList_testPath, String.toList_append, String.toList_append, toList_testPath]
  exact Text.replaceFrom_append_mark (by decide) _ start.toList "py".toList (Nat.zero_le _)

theorem testPath_eq_self_iff {path : String} : testPath path = path ↔ Text.contains path ".py" = false := by
  constructor
  · intro same
    rw [← Bool.not_eq_true]
    exact fun found => Text.replace_ne (by decide) (by decide) found same
  · exact fun absent => Text.replace_of_not_contains absent _

theorem length_le_testPath (path : String) : path.toList.length ≤ (testPath path).toList.length := by
  rw [toList_testPath]
  exact Text.length_le_replaceFrom (by decide) (by decide) 0 path.toList

theorem eq_of_testPath_eq {name short : String} (few : short.toList.length < 3) (same : testPath name = short) :
    name = short := by
  rw [← same, eq_comm, testPath_eq_self_iff, ← Bool.not_eq_true, Text.contains_iff]
  intro found
  -- a name with the ending in it has at least its length, and does not become shorter
  have size := found.length_le
  have bound := length_le_testPath name
  rw [same] at bound
  exact absurd (Nat.le_trans size bound) (Nat.not_le_of_lt few)

/-- The names of the path of the tests are those of the target, each with the ending replaced. -/
theorem names_testPath (path : String) : Path.names (testPath path) = (Path.names path).map testPath := by
  rw [Path.names_eq, Path.names_eq, toList_testPath]
  exact Path.namesOf_replaceFrom (by decide) (by decide) (by decide) (by decide) path.toList

theorem base_testPath (path : String) : Tree.base (testPath path) = Tree.base path := by
  have same : Path.isAbsolute (testPath path) = Path.isAbsolute path := by
    unfold Path.isAbsolute Text.startsWith
    rw [toList_testPath]
    cases path.toList with
    | nil => rfl
    | cons c rest =>
      rw [Text.replaceFrom]
      split
      · next found =>
        obtain rfl : '.' = c := (List.cons_prefix_cons.mp (List.isPrefixOf_iff_prefix.mp found)).1
        rfl
      · simp [List.isPrefixOf]
  rw [Tree.base, Tree.base, same]

/-- A path has the names of the path of its tests exactly if the ending is not in it. -/
theorem map_testPath_names_iff {path : String} :
    (Path.names path).map testPath = Path.names path ↔ Text.contains path ".py" = false := by
  constructor
  · intro same
    rw [← Bool.not_eq_true]
    intro found
    obtain ⟨name, member, inside⟩ :=
      Path.exists_name_of_infix (by decide) (by decide) ((Text.contains_iff _ _).mp found)
    have kept : testPath name = name := List.map_inj_left.mp (same.trans (List.map_id _).symm) name member
    rw [testPath_eq_self_iff, (Text.contains_iff _ _).mpr inside] at kept
    cases kept
  · intro absent
    rw [← names_testPath, testPath_eq_self_iff.mpr absent]

/-! ## Source files of the copy -/

/-- The path of a source file of the copy, and the name of the file without the ending. -/
structure Spelling (target stem : String) : Prop where
  relative : Tree.base target = Path.home
  folders : ∃ inner, Path.names (Path.parent target) = repositoryFolder :: inner ∧
    ∀ name ∈ inner, Tree.IsName name
  last : Path.fileName target = stem ++ ".py"
  isName : Tree.IsName (stem ++ ".py")

theorem spelling_of_sourceFile {tree : Tree} {target : String} (named : tree.Named)
    (listed : target ∈ sourceFiles tree repositoryFolder) : ∃ stem, Spelling target stem := by
  obtain ⟨visit, visited, found⟩ := List.mem_flatMap.mp listed
  split at found
  · exact absurd found List.not_mem_nil
  · obtain ⟨name, kept, rfl⟩ := List.mem_map.mp found
    obtain ⟨member, passed⟩ := List.mem_filter.mp kept
    obtain ⟨entry, present, inside⟩ := Tree.exists_of_mem_files _ visited member
    obtain ⟨same, inner, names, all⟩ := named.visited _ visited
    obtain ⟨chars, ends⟩ := List.isSuffixOf_iff_suffix.mp (Bool.and_eq_true_iff.mp passed).1
    obtain rfl : String.ofList chars ++ ".py" = name := by
      rw [← String.toList_inj, String.toList_append, String.toList_ofList, ends]
    have isName := named entry present _ inside
    have last : Path.fileName (Path.join visit.folder (String.ofList chars ++ ".py")) =
        String.ofList chars ++ ".py" := Path.fileName_join isName.noSlash
    refine ⟨String.ofList chars, ?_, ⟨inner, ?_, all⟩, last, isName⟩
    · rw [Tree.base, Path.isAbsolute_join_eq (folder_ne_empty _ visited)]
      exact same
    · -- both ways to take the last name off give the names of the folder
      have split := Path.names_split (last ▸ isName.some_char)
      rw [Path.names_join _ isName.noSlash isName.some_char, last] at split
      rw [← List.append_cancel_right split, names]
      rfl

namespace Spelling

variable {tree : Tree} {target stem : String}

theorem names (spelling : Spelling target stem) :
    Path.names target = Path.names (Path.parent target) ++ [stem ++ ".py"] := by
  rw [Path.names_split (spelling.last ▸ spelling.isName.some_char), spelling.last]

theorem place (spelling : Spelling target stem) :
    Tree.spelled target = Path.home ++ Path.names (Path.parent target) ++ [stem ++ ".py"] := by
  rw [Tree.spelled, spelling.relative, spelling.names, List.append_assoc]

theorem testPlace (spelling : Spelling target stem) : Tree.spelled (testPath target) =
    Path.home ++ (Path.names (Path.parent target)).map testPath ++ [testPath stem ++ "_reaper_test.py"] := by
  rw [Tree.spelled, base_testPath, spelling.relative, names_testPath, spelling.names, List.map_append,
    List.map_singleton, testPath_append_ending, List.append_assoc]

theorem below (spelling : Spelling target stem) :
    ∃ inner, Path.names target = repositoryFolder :: inner ∧ ∀ name ∈ inner, Tree.IsName name := by
  obtain ⟨inner, names, all⟩ := spelling.folders
  refine ⟨inner ++ [stem ++ ".py"], by rw [spelling.names, names, List.cons_append], fun name member => ?_⟩
  rcases List.mem_append.mp member with folder | last
  · exact all name folder
  · exact List.mem_singleton.mp last ▸ spelling.isName

end Spelling

/-! ## What is written -/

/-- In a copy without links the names of its folders and files are a direct way. -/
theorem direct_of_unlinked {tree : Tree} (unlinked : tree.Unlinked (Tree.spelled repositoryFolder))
    {inner : List String} (down : ∀ name ∈ inner, name ≠ "." ∧ name ≠ "..") :
    Tree.Direct tree Path.home (repositoryFolder :: inner) := by
  refine ⟨List.forall_mem_cons.mpr ⟨by decide, down⟩, fun start goal some_name begins => ?_⟩
  obtain ⟨first, rest, rfl⟩ := List.exists_cons_of_ne_nil some_name
  obtain ⟨rfl, _⟩ := List.cons_prefix_cons.mp begins
  exact unlinked _ goal ⟨rest, rfl⟩

theorem Spelling.direct {tree : Tree} {target stem path : String} (spelling : Spelling target stem)
    (unlinked : tree.Unlinked (Tree.spelled repositoryFolder)) (saved : path ∈ pathsFor target) :
    Tree.Direct tree (Tree.base path) (Path.names path) := by
  obtain ⟨inner, names, all⟩ := spelling.below
  rcases List.mem_cons.mp saved with rfl | tests
  · rw [spelling.relative, names]
    exact direct_of_unlinked unlinked fun name member => ⟨(all name member).notSelf, (all name member).notAbove⟩
  · obtain rfl := List.mem_singleton.mp tests
    have kept : testPath repositoryFolder = repositoryFolder := testPath_eq_self_iff.mpr (by decide)
    rw [base_testPath, spelling.relative, names_testPath, names, List.map_cons, kept]
    refine direct_of_unlinked unlinked fun name member => ?_
    obtain ⟨old, listed, rfl⟩ := List.mem_map.mp member
    constructor
    · exact fun same => (all old listed).notSelf (eq_of_testPath_eq (by decide) same)
    · exact fun same => (all old listed).notAbove (eq_of_testPath_eq (by decide) same)

/-- Texts saved at direct paths are written at the places that these spell. -/
theorem replay_frame {written : Place → Prop} {tree : Tree} {events : List Event}
    (allowed : ∀ save ∈ savesOf events, written (Tree.spelled save.1) ∧
      Tree.Direct tree (Tree.base save.1) (Path.names save.1)) :
    Tree.Frame written tree (replay tree events) := by
  unfold replay
  generalize savesOf events = saves at allowed
  induction saves generalizing tree with
  | nil => exact .refl tree
  | cons save rest ih =>
    obtain ⟨wanted, direct⟩ := allowed save List.mem_cons_self
    have step : Tree.Frame written tree (tree.saveText save.1 save.2).1 :=
      (Tree.saveText_frame direct save.2).mono fun place same => same ▸ wanted
    rw [List.foldl_cons]
    -- no links come up, so the ways to later paths stay direct
    refine step.trans (ih fun later member => ?_)
    obtain ⟨fine, ahead⟩ := allowed later (List.mem_cons_of_mem save member)
    exact ⟨fine, step.direct ahead⟩

theorem Protocol.mem_sourceFiles (protocol : Protocol) {tree : Tree} {target : String}
    (chosen : protocol.target? tree = some target) : target ∈ sourceFiles tree repositoryFolder := by
  cases protocol with
  | guarded => exact Guarded.mem_sourceFiles_of_target chosen
  | single => exact Single.mem_sourceFiles_of_target chosen

def Protocol.treeAfter (protocol : Protocol) (tree : Tree) (script : Script) : Tree :=
  (perform protocol.campaign (World.start tree script)).2.tree

/-- A campaign writes no files but its target and the tests. -/
theorem Protocol.campaign_frame (protocol : Protocol) {tree : Tree} {script : Script} {copy : World}
    {target stem : String} (copied : Copied protocol.opening (World.start tree script) copy)
    (chosen : protocol.target? copy.tree = some target)
    (unlinked : copy.tree.Unlinked (Tree.spelled repositoryFolder)) (spelling : Spelling target stem) :
    Tree.Frame (fun place => place = Tree.spelled target ∨ place = Tree.spelled (testPath target)) copy.tree
      (protocol.treeAfter tree script) := by
  obtain ⟨events, leads, within⟩ := protocol.campaign_traced copied
  rw [chosen] at within
  rw [treeAfter, leads.tree]
  refine replay_frame fun save member => ⟨?_, spelling.direct unlinked (within save member)⟩
  rcases List.mem_cons.mp (within save member) with same | tests
  · exact .inl (congrArg Tree.spelled same)
  · exact .inr (congrArg Tree.spelled (List.mem_singleton.mp tests))

/-! ## Where the tests are -/

/-- The tests are beside the target exactly if the ending is nowhere else in its path. -/
theorem Spelling.beside_iff {target stem : String} (spelling : Spelling target stem) :
    Tree.spelled (testPath target) = Path.home ++ Path.names (Path.parent target) ++ [stem ++ "_reaper_test.py"] ↔
      Text.contains (Path.parent target) ".py" = false ∧ Text.contains stem ".py" = false := by
  rw [spelling.testPlace, ← map_testPath_names_iff, ← testPath_eq_self_iff]
  constructor
  · intro same
    obtain ⟨folders, last⟩ := List.append_inj' same rfl
    refine ⟨List.append_cancel_left folders, ?_⟩
    have chars := congrArg String.toList (List.singleton_inj.mp last)
    rw [String.toList_append, String.toList_append] at chars
    exact String.toList_inj.mp (List.append_cancel_right chars)
  · rintro ⟨folders, name⟩
    rw [folders, name]

theorem Spelling.testPlace_ne {target stem : String} (spelling : Spelling target stem) :
    Tree.spelled (testPath target) ≠ Tree.spelled target := by
  rw [spelling.testPlace, spelling.place, ← testPath_append_ending]
  intro same
  have last := List.singleton_inj.mp (List.append_inj' same rfl).2
  refine testPath_ne ?_ last
  exact List.isSuffixOf_iff_suffix.mpr (by simp)

/-- The file at the place is another one, or is in one of the trees only. -/
def Changed (before after : Tree) (place : Place) : Prop := after.fileAt? place ≠ before.fileAt? place

/-- In a copy without links, a campaign changes at most its target and the file at the path of the tests.
These are the target and the file beside it that is named for the tests exactly if the ending of source
files is nowhere else in the path of the target, or the file at the path of the tests stays as it was. -/
theorem changes_beside_target_iff (protocol : Protocol) {tree : Tree} {script : Script} {copy : World}
    (copied : Copied protocol.opening (World.start tree script) copy) (named : copy.tree.Named)
    (unlinked : copy.tree.Unlinked (Tree.spelled repositoryFolder)) :
    (protocol.target? copy.tree = none → ∀ place, ¬ Changed copy.tree (protocol.treeAfter tree script) place) ∧
    ∀ target, protocol.target? copy.tree = some target → ∃ folder stem bytes,
      Path.fileName target = stem ++ ".py" ∧
      copy.tree.lookup target = .ok (folder ++ [stem ++ ".py"], .file bytes) ∧
      (∀ place, Changed copy.tree (protocol.treeAfter tree script) place →
        place = folder ++ [stem ++ ".py"] ∨ place = Tree.spelled (testPath target)) ∧
      ((∀ place, Changed copy.tree (protocol.treeAfter tree script) place →
          place = folder ++ [stem ++ ".py"] ∨ place = folder ++ [stem ++ "_reaper_test.py"]) ↔
        (Text.contains (Path.parent target) ".py" = false ∧ Text.contains stem ".py" = false) ∨
          ¬ Changed copy.tree (protocol.treeAfter tree script) (Tree.spelled (testPath target))) := by
  constructor
  · intro idle place changed
    have same : protocol.treeAfter tree script = copy.tree :=
      protocol.tree_of_no_texts copied (by simp [idle])
    exact changed (by rw [same])
  · intro target chosen
    obtain ⟨stem, spelling⟩ := spelling_of_sourceFile named (protocol.mem_sourceFiles chosen)
    obtain ⟨savable, place, bytes, found⟩ := protocol.target_file chosen
    have direct := spelling.direct unlinked (target_mem_pathsFor target)
    rw [Tree.place_of_lookup savable.plain found direct, spelling.place] at found
    have frame := protocol.campaign_frame copied chosen unlinked spelling
    -- a file that has changed has been written
    have only (place : Place) (changed : Changed copy.tree (protocol.treeAfter tree script) place) :
        place = Tree.spelled target ∨ place = Tree.spelled (testPath target) :=
      Classical.byContradiction fun kept => changed (frame.fileAt?_eq kept)
    rw [spelling.place] at only
    refine ⟨Path.home ++ Path.names (Path.parent target), stem, bytes, spelling.last, found, only, ?_⟩
    rw [← spelling.beside_iff]
    constructor
    · intro law
      by_cases changed : Changed copy.tree (protocol.treeAfter tree script) (Tree.spelled (testPath target))
      · refine .inl ((law _ changed).resolve_left ?_)
        rw [← spelling.place]
        exact spelling.testPlace_ne
      · exact .inr changed
    · rintro (beside | kept) place changed
      · rw [← beside]
        exact only place changed
      · refine .inl ((only place changed).resolve_right fun tests => kept ?_)
        rwa [← tests]

/-! ## A folder with the ending in its name -/

def nestedScript : Script := { Script.empty with
  clone := [("my.pylib/binary_search.py", .file (0xFF :: List.replicate 600 0x23))]
  replies := [.text "x = 1", .text "y = 1", .text "y = 1"]
  tests := [.finished 0 "1 passed" "", .finished 0 "1 passed" ""] }

def nestedPath : String := "temp_repo/my.pylib/binary_search.py"

def nestedCopy : World :=
  (perform (do announce Guarded.opening; cloneRepository repositoryAddress repositoryFolder)
    (World.start Tree.empty nestedScript)).2

theorem nestedCopy_holds :
    (perform (do announce Guarded.opening; cloneRepository repositoryAddress repositoryFolder)
      (World.start Tree.empty nestedScript)).1.toOption = some repositoryFolder ∧
    Guarded.target? nestedCopy.tree = some nestedPath ∧
    (∀ entry ∈ nestedCopy.tree.entries, (∀ name ∈ entry.1, Tree.IsName name) ∧ entry.2.isLink = false) ∧
    (Protocol.guarded.treeAfter Tree.empty nestedScript).fileAt? (Tree.spelled (testPath nestedPath)) ≠
      nestedCopy.tree.fileAt? (Tree.spelled (testPath nestedPath)) := by
  decide +kernel

theorem nestedCopy_copied : Copied Guarded.opening (World.start Tree.empty nestedScript) nestedCopy :=
  Prod.ext (eq_ok_of_toOption nestedCopy_holds.1) rfl

theorem nested_tests_elsewhere : ∃ folder stem bytes,
    nestedCopy.tree.lookup nestedPath = .ok (folder ++ [stem ++ ".py"], .file bytes) ∧
      ¬ ∀ place, Changed nestedCopy.tree (Protocol.guarded.treeAfter Tree.empty nestedScript) place →
        place = folder ++ [stem ++ ".py"] ∨ place = folder ++ [stem ++ "_reaper_test.py"] := by
  obtain ⟨_, target, entries, saved⟩ := nestedCopy_holds
  have named : nestedCopy.tree.Named := fun entry listed => (entries entry listed).1
  have unlinked : nestedCopy.tree.Unlinked (Tree.spelled repositoryFolder) :=
    .of_entries fun entry listed => (entries entry listed).2
  obtain ⟨folder, stem, bytes, _, found, _, beside⟩ :=
    (changes_beside_target_iff .guarded nestedCopy_copied named unlinked).2 nestedPath target
  refine ⟨folder, stem, bytes, found, fun law => ?_⟩
  rcases beside.mp law with ⟨absent, _⟩ | kept
  · exact absurd absent (by decide)
  · exact kept saved

end Refactory.Campaign
