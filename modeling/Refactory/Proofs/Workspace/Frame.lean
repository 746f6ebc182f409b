import Refactory.Proofs.Workspace.Saving
import Refactory.Workspace.Changes

/-! The files that saving leaves alone.

Where no links are on the way, a path leads to the place that it spells. Saving a text there makes folders
where nothing was and writes the file at that place, so every other file stays as it is.
-/

set_option autoImplicit false

namespace Refactory.Workspace

def Entry.isLink : Entry → Bool
  | .link _ => true
  | _ => false

namespace Tree

/-! ## Names of files -/

structure IsName (name : String) : Prop where
  some_char : name ≠ ""
  noSlash : '/' ∉ name.toList
  notSelf : name ≠ "."
  notAbove : name ≠ ".."

instance (name : String) : Decidable (IsName name) :=
  decidable_of_iff (name ≠ "" ∧ '/' ∉ name.toList ∧ name ≠ "." ∧ name ≠ "..")
    ⟨fun ⟨some_char, noSlash, notSelf, notAbove⟩ => ⟨some_char, noSlash, notSelf, notAbove⟩,
      fun ⟨some_char, noSlash, notSelf, notAbove⟩ => ⟨some_char, noSlash, notSelf, notAbove⟩⟩

def Named (tree : Tree) : Prop := ∀ entry ∈ tree.entries, ∀ name ∈ entry.1, IsName name

/-- The folder is no link, and there are none in it. -/
def Unlinked (tree : Tree) (folder : Place) : Prop :=
  ∀ place goal, folder <+: place → tree.get? place ≠ some (.link goal)

theorem Unlinked.of_entries {tree : Tree} {folder : Place}
    (plain : ∀ entry ∈ tree.entries, entry.2.isLink = false) : tree.Unlinked folder := by
  intro place goal _ found
  obtain ⟨before, after, split, _⟩ := List.lookup_eq_some_iff.mp found
  have passed := plain (place, .link goal) (by simp [split])
  cases passed

def spelled (path : String) : Place := base path ++ Path.names path

theorem Named.visited {tree : Tree} (named : tree.Named) (depth : Nat) {path : String} {visit : Visit}
    (visited : visit ∈ tree.visitsWithin depth path) :
    base visit.folder = base path ∧
      ∃ inner, Path.names visit.folder = Path.names path ++ inner ∧ ∀ name ∈ inner, IsName name := by
  induction depth generalizing path with
  | zero => cases visited
  | succ depth ih =>
    rw [visitsWithin] at visited
    split at visited
    · next place found =>
      rcases List.mem_cons.mp visited with rfl | deeper
      · exact ⟨rfl, [], (List.append_nil _).symm, List.forall_mem_nil _⟩
      · obtain ⟨name, entered, within⟩ := List.mem_flatMap.mp deeper
        obtain ⟨entry, listed, member⟩ := exists_of_mem_namesIn (List.mem_filter.mp entered).1
        have isName := named entry listed name member
        obtain ⟨same, inner, names, all⟩ := ih within
        have some_char := (find_eq_ok_iff.mp (lookup_eq_ok_iff.mp found)).1
        -- the folder that is entered adds its own name to those of the path
        refine ⟨?_, name :: inner, ?_, List.forall_mem_cons.mpr ⟨isName, all⟩⟩
        · rw [same, base, base, Path.isAbsolute_join_eq some_char]
        · rw [names, Path.names_join path isName.noSlash isName.some_char, List.append_assoc,
            List.singleton_append]
    · cases visited

/-! ## Direct ways -/

def Target.place : Target → Place
  | .entry place _ => place
  | .free folder name => folder ++ [name]

/-- Names that go down from a folder without coming to a link. -/
structure Direct (tree : Tree) (folder : Place) (names : List String) : Prop where
  down : ∀ name ∈ names, name ≠ "." ∧ name ≠ ".."
  unlinked : ∀ start goal, start ≠ [] → start <+: names → tree.get? (folder ++ start) ≠ some (.link goal)

namespace Direct

variable {tree : Tree} {folder : Place} {name : String} {rest : List String}

theorem tail (direct : Direct tree folder (name :: rest)) : Direct tree (folder ++ [name]) rest := by
  refine ⟨fun other member => direct.down other (List.mem_cons_of_mem name member), ?_⟩
  intro start goal _ begins
  rw [List.append_assoc, List.singleton_append]
  exact direct.unlinked (name :: start) goal (List.cons_ne_nil _ _) (List.cons_prefix_cons.mpr ⟨rfl, begins⟩)

theorem head_unlinked (direct : Direct tree folder (name :: rest)) (goal : String) :
    tree.get? (folder ++ [name]) ≠ some (.link goal) :=
  direct.unlinked [name] goal (List.cons_ne_nil _ _) (List.cons_prefix_cons.mpr ⟨rfl, List.nil_prefix⟩)

end Direct

/-- A direct way leads to the place that its names spell. -/
theorem Leads.place_eq {tree : Tree} {purpose : Purpose} {links : Nat} {folder : Place} {names : List String}
    {found : Target} (led : Leads tree purpose links folder names found) (direct : Direct tree folder names) :
    found.place = folder ++ names := by
  induction led with
  | here => exact (List.append_nil _).symm
  | self => exact absurd rfl (direct.down _ List.mem_cons_self).1
  | above => exact absurd rfl (direct.down _ List.mem_cons_self).2
  | free => rfl
  | into _ _ _ ih => rw [ih direct.tail, List.append_assoc, List.singleton_append]
  | file => rfl
  | link => rfl
  | through _ _ there _ _ => exact absurd there (direct.head_unlinked _)

theorem place_of_writable {tree : Tree} {path : String} {place : Place} (goal : tree.writable path = .ok place)
    (direct : Direct tree (base path) (Path.names path)) : place = spelled path := by
  obtain ⟨_, ⟨bytes, led⟩ | ⟨folder, name, rfl, led⟩⟩ := find_of_writable goal
  · exact (find_eq_ok_iff.mp led).2.2.place_eq direct
  · exact (find_eq_ok_iff.mp led).2.2.place_eq direct

theorem place_of_lookup {tree : Tree} {path : String} {place : Place} {entry : Entry}
    (plain : Path.endsInSlash path = false) (found : tree.lookup path = .ok (place, entry))
    (direct : Direct tree (base path) (Path.names path)) : place = spelled path := by
  have led := lookup_eq_ok_iff.mp found
  rw [stepsOf_plain plain] at led
  exact (find_eq_ok_iff.mp led).2.2.place_eq direct

/-! ## Frames -/

/-- From one tree to the next, files are written at certain places only, and otherwise folders are made
where nothing was. -/
structure Frame (written : Place → Prop) (before after : Tree) : Prop where
  entry (place : Place) : after.get? place = before.get? place ∨
    (before.get? place = none ∧ after.get? place = some .folder) ∨
    (written place ∧ ∃ bytes, after.get? place = some (.file bytes))

namespace Frame

variable {written : Place → Prop} {before after : Tree}

theorem refl (tree : Tree) : Frame written tree tree := ⟨fun _ => .inl rfl⟩

theorem trans {first second third : Tree} (left : Frame written first second)
    (right : Frame written second third) : Frame written first third := by
  constructor
  intro place
  rcases right.entry place with same | ⟨missing, made⟩ | wrote
  · rw [same]
    exact left.entry place
  · -- nothing was there in between, so nothing was before
    rcases left.entry place with same | ⟨_, made⟩ | ⟨_, bytes, file⟩
    · exact .inr (.inl ⟨same ▸ missing, made⟩)
    · rw [made] at missing
      cases missing
    · rw [file] at missing
      cases missing
  · exact .inr (.inr wrote)

theorem mono {wider : Place → Prop} (frame : Frame written before after)
    (within : ∀ place, written place → wider place) : Frame wider before after :=
  ⟨fun place => (frame.entry place).imp_right (.imp_right (.imp_left (within place)))⟩

theorem put_folder {tree : Tree} {place : Place} (missing : tree.get? place = none) :
    Frame written tree (tree.put place .folder) := by
  constructor
  intro other
  by_cases same : other = place
  · subst same
    exact .inr (.inl ⟨missing, get?_put_self ..⟩)
  · exact .inl (get?_put_ne tree _ same)

theorem put_file {tree : Tree} {place : Place} (allowed : written place) (bytes : List UInt8) :
    Frame written tree (tree.put place (.file bytes)) := by
  constructor
  intro other
  by_cases same : other = place
  · subst same
    exact .inr (.inr ⟨allowed, bytes, get?_put_self ..⟩)
  · exact .inl (get?_put_ne tree _ same)

/-- A file that is not written stays as it is, and none comes up in its place. -/
theorem fileAt?_eq (frame : Frame written before after) {place : Place} (kept : ¬ written place) :
    after.fileAt? place = before.fileAt? place := by
  unfold fileAt?
  rcases frame.entry place with same | ⟨missing, made⟩ | ⟨wrote, _⟩
  · rw [same]
  · rw [missing, made]
  · exact absurd wrote kept

/-- No way comes to a link that it did not come to before. -/
theorem direct {folder : Place} {names : List String} (frame : Frame written before after)
    (direct : Direct before folder names) : Direct after folder names := by
  refine ⟨direct.down, fun start goal some_name begins found => ?_⟩
  rcases frame.entry (folder ++ start) with same | ⟨_, made⟩ | ⟨_, bytes, file⟩
  · exact direct.unlinked start goal some_name begins (same ▸ found)
  · rw [made] at found
    cases found
  · rw [file] at found
    cases found

end Frame

theorem ensureFolders_frame {written : Place → Prop} (tree : Tree) (path : String) :
    Frame written tree (tree.ensureFolders path).1 :=
  ensureFoldersWithin_keeps (Frame written tree) (fun missing framed => framed.trans (.put_folder missing)) _
    (.refl tree) path

/-- Saving writes no file but the one that is written once the folders of the path have been made. -/
theorem saveText_frame_of {written : Place → Prop} {tree : Tree} {path : String}
    (goes : ∀ place, (tree.ensureFolders (Path.parent path)).1.writable path = .ok place → written place)
    (text : String) : Frame written tree (tree.saveText path text).1 := by
  have made : Frame written tree (tree.ensureFolders (Path.parent path)).1 :=
    ensureFolders_frame tree (Path.parent path)
  rcases saveText_cases tree path text with ⟨same, _⟩ | ⟨place, goal, wrote, _⟩
  · rw [same]
    exact made
  · rw [wrote]
    exact made.trans (.put_file (goes place goal) _)

/-- Saving at a direct path writes no file but the one at the place that it spells. -/
theorem saveText_frame {tree : Tree} {path : String} (direct : Direct tree (base path) (Path.names path))
    (text : String) : Frame (· = spelled path) tree (tree.saveText path text).1 := by
  refine saveText_frame_of (fun place goal => ?_) text
  -- the path is direct in the tree with the folders made, as that has no new links
  have made : Frame (· = spelled path) tree (tree.ensureFolders (Path.parent path)).1 :=
    ensureFolders_frame tree (Path.parent path)
  exact place_of_writable goal (made.direct direct)

end Tree

end Refactory.Workspace
