import Refactory.Workspace.Walk

/-! The paths that a walk comes by.

A walk from an absolute path visits absolute paths, and the last part of the path of a file is a name
of the tree.
-/

set_option autoImplicit false

namespace Refactory.Workspace

/-! ## Paths -/

namespace Path

theorem isAbsolute_iff {path : String} : isAbsolute path = true ↔ ['/'] <+: path.toList := by
  unfold isAbsolute Text.startsWith
  exact List.isPrefixOf_iff_prefix

theorem isAbsolute_of_prefix {path : String} {chars : List Char} (absolute : isAbsolute path = true)
    (start : chars <+: path.toList) (some_char : chars ≠ []) :
    isAbsolute (String.ofList chars) = true := by
  rw [isAbsolute_iff] at absolute ⊢
  rw [String.toList_ofList]
  obtain ⟨first, rest, rfl⟩ := List.exists_cons_of_ne_nil some_char
  obtain ⟨_, whole⟩ := start
  rw [← whole, List.cons_append, List.cons_prefix_cons] at absolute
  exact List.cons_prefix_cons.mpr ⟨absolute.1, List.nil_prefix⟩

theorem prefix_reverse_dropWhile (drop : Char → Bool) (chars : List Char) :
    (chars.reverse.dropWhile drop).reverse <+: chars := by
  have ending := List.reverse_prefix.mpr (List.dropWhile_suffix drop (l := chars.reverse))
  rwa [List.reverse_reverse] at ending

theorem isAbsolute_withoutFinalSlashes {path : String} (absolute : isAbsolute path = true) :
    isAbsolute (withoutFinalSlashes path) = true := by
  unfold withoutFinalSlashes
  dsimp only
  split
  · exact absolute
  · rename_i kept
    apply isAbsolute_of_prefix absolute (prefix_reverse_dropWhile _ _)
    simpa using kept

theorem isAbsolute_parent {path : String} (absolute : isAbsolute path = true) :
    isAbsolute (parent path) = true := by
  unfold parent split
  dsimp only
  apply isAbsolute_withoutFinalSlashes
  apply isAbsolute_of_prefix absolute (prefix_reverse_dropWhile _ _)
  -- the slash at the start stops the search for the last one
  have slash : '/' ∈ path.toList := (isAbsolute_iff.mp absolute).subset List.mem_cons_self
  intro nothing
  have whole := List.takeWhile_append_dropWhile (p := (· ≠ '/')) (l := path.toList.reverse)
  rw [List.reverse_eq_nil_iff.mp nothing, List.append_nil] at whole
  have passed := List.all_takeWhile (p := (· ≠ '/')) (l := path.toList.reverse)
  rw [whole, List.all_eq_true] at passed
  simpa using passed '/' (List.mem_reverse.mpr slash)

theorem isAbsolute_absolute (path : String) : isAbsolute (absolute path) = true := by
  rw [isAbsolute_iff, absolute, ofNames, String.toList_append]
  exact List.prefix_append ..

theorem isAbsolute_join {folder : String} (absolute : isAbsolute folder = true) (name : String) :
    isAbsolute (join folder name) = true := by
  rw [isAbsolute_iff] at absolute ⊢
  unfold join
  split
  · rw [String.toList_append]
    exact absolute.trans (List.prefix_append ..)
  · rw [String.toList_append, String.toList_append, List.append_assoc]
    exact absolute.trans (List.prefix_append ..)

theorem takeWhile_append_slash {name rest : List Char} (plain : '/' ∉ name)
    (border : rest = [] ∨ rest.head? = some '/') : (name ++ rest).takeWhile (· ≠ '/') = name := by
  induction name with
  | nil =>
    rcases border with rfl | slash
    · rfl
    · obtain ⟨later, rfl⟩ := List.head?_eq_some_iff.mp slash
      rfl
  | cons c name ih =>
    have other : c ≠ '/' := fun same => plain (same ▸ List.mem_cons_self)
    rw [List.cons_append, List.takeWhile_cons_of_pos (by simpa using other),
      ih (List.not_mem_of_not_mem_cons plain)]

theorem fileName_join {folder name : String} (plain : '/' ∉ name.toList) :
    fileName (join folder name) = name := by
  -- from the end, the path is the name and then nothing or a slash
  have ends (rest : List Char) (border : rest = [] ∨ rest.head? = some '/') {path : String}
      (reversed : path.toList.reverse = name.toList.reverse ++ rest) : fileName path = name := by
    unfold fileName split
    dsimp only
    rw [reversed, takeWhile_append_slash (by simpa using plain) border, List.reverse_reverse,
      String.ofList_toList]
  unfold join
  split
  · rename_i bare
    apply ends folder.toList.reverse _ (by simp)
    rcases Bool.or_eq_true_iff.mp bare with empty | slash
    · exact Or.inl (by simpa using empty)
    · unfold endsInSlash Text.endsWith at slash
      rw [List.isSuffixOf_iff_suffix] at slash
      obtain ⟨before, whole⟩ := slash
      exact Or.inr (by simp [← whole])
  · exact ends ('/' :: folder.toList.reverse) (Or.inr rfl) (by simp)

end Path

/-! ## Visits -/

namespace Tree

variable {tree : Tree}

theorem isAbsolute_of_mem_visitsWithin (depth : Nat) {path : String} {visit : Visit}
    (absolute : Path.isAbsolute path = true) (member : visit ∈ tree.visitsWithin depth path) :
    Path.isAbsolute visit.folder = true := by
  induction depth generalizing path with
  | zero => cases member
  | succ depth ih =>
    rw [visitsWithin] at member
    split at member
    · rcases List.mem_cons.mp member with rfl | inner
      · exact absolute
      · obtain ⟨name, _, deeper⟩ := List.mem_flatMap.mp inner
        exact ih (Path.isAbsolute_join absolute name) deeper
    · cases member

/-- The visits of a folder, from the names of its files and of the folders that are entered. -/
theorem visitsWithin_folder {path : String} {place : Place} {names files folders : List String}
    (found : tree.lookup path = .ok (place, .folder)) (named : tree.namesIn place = names)
    (plain : names.filter (fun name => !tree.isFolder (Path.join path name)) = files)
    (entered : names.filter (fun name =>
      tree.isFolder (Path.join path name) && !tree.isLink (Path.join path name)) = folders)
    (depth : Nat) :
    tree.visitsWithin (depth + 1) path =
      ⟨path, files⟩ :: folders.flatMap fun name => tree.visitsWithin depth (Path.join path name) := by
  simp only [visitsWithin, found, named, plain, entered]

theorem exists_of_mem_namesIn {folder : Place} {name : String} (member : name ∈ tree.namesIn folder) :
    ∃ entry ∈ tree.entries, name ∈ entry.1 := by
  obtain ⟨entry, listed, found⟩ := List.mem_filterMap.mp ((tree.listing.perm folder _).mem_iff.mp member)
  split at found
  · exact ⟨entry, listed, List.mem_of_getLast? found⟩
  · cases found

theorem exists_of_mem_files (depth : Nat) {path : String} {visit : Visit}
    (visited : visit ∈ tree.visitsWithin depth path) {name : String} (member : name ∈ visit.files) :
    ∃ entry ∈ tree.entries, name ∈ entry.1 := by
  induction depth generalizing path with
  | zero => cases visited
  | succ depth ih =>
    rw [visitsWithin] at visited
    split at visited
    · rcases List.mem_cons.mp visited with rfl | inner
      · exact exists_of_mem_namesIn (List.mem_filter.mp member).1
      · obtain ⟨inside, _, deeper⟩ := List.mem_flatMap.mp inner
        exact ih deeper
    · cases visited

def Proper (tree : Tree) : Prop := ∀ entry ∈ tree.entries, ∀ name ∈ entry.1, '/' ∉ name.toList

theorem Proper.of_mem_files (proper : tree.Proper) (depth : Nat) {path : String} {visit : Visit}
    (visited : visit ∈ tree.visitsWithin depth path) {name : String} (member : name ∈ visit.files) :
    '/' ∉ name.toList := by
  obtain ⟨entry, listed, inside⟩ := exists_of_mem_files depth visited member
  exact proper entry listed name inside

end Tree

end Refactory.Workspace
