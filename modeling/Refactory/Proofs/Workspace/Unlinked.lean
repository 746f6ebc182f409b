import Refactory.Proofs.Workspace.Frame

/-! Trees without links.

There a path leads to the place that its names spell, where the name of a parent folder takes the last name
away. So it can be told from two paths alone whether saving at one of them touches what the other leads to.
-/

set_option autoImplicit false

namespace Refactory.Workspace

/-! ## Paths with the same start -/

theorem Path.split_append_plain (start : String) {ending : String} (noSlash : '/' ∉ ending.toList) :
    Path.split (start ++ ending) = (Path.parent start, Path.fileName start ++ ending) := by
  have plain : ∀ c ∈ ending.toList.reverse, decide (c ≠ '/') = true := by
    intro c member
    rw [decide_eq_true_eq]
    rintro rfl
    exact noSlash (List.mem_reverse.mp member)
  simp only [Path.split, Path.parent, Path.fileName, String.toList_append, List.reverse_append,
    List.takeWhile_append_of_pos plain, List.dropWhile_append_of_pos plain, List.reverse_reverse,
    String.ofList_append, String.ofList_toList]

theorem Path.endsInSlash_append {ending : String} {c : Char} (last : ending.toList.getLast? = some c)
    (plain : c ≠ '/') (start : String) : Path.endsInSlash (start ++ ending) = false := by
  rw [← Bool.not_eq_true, Path.endsInSlash_iff]
  rintro ⟨rest, same⟩
  have ends := congrArg List.getLast? same
  rw [List.getLast?_concat, String.toList_append, List.getLast?_append, last, Option.some_or] at ends
  exact plain (Option.some.inj ends).symm

namespace Tree

/-! ## Places of paths -/

/-- The place that a path spells, where the name of a parent folder takes the last name away. -/
def resolved (path : String) : Place := (Path.names path).foldl Path.step (base path)

theorem step_looked {name : String} (looked : Looked name) (folder : Place) :
    Path.step folder name = folder ++ [name] := by
  rw [Path.step, if_neg looked.notSelf, if_neg looked.notAbove]

theorem resolved_append (start : String) {ending : String} (noSlash : '/' ∉ ending.toList)
    (long : 2 < ending.toList.length) : resolved (start ++ ending) =
      (Path.names (Path.parent start)).foldl Path.step (base (start ++ ending)) ++
        [Path.fileName start ++ ending] := by
  have parts := Path.split_append_plain start noSlash
  rw [Path.split_eq, Prod.mk.injEq] at parts
  obtain ⟨above, last⟩ := parts
  -- the last name is too long to stand for this folder or the one above
  have apart (short : String) (few : short.toList.length ≤ 2) : Path.fileName start ++ ending ≠ short := by
    rintro rfl
    rw [String.toList_append, List.length_append] at few
    omega
  have named : Path.fileName (start ++ ending) ≠ "" := by
    rw [last]
    exact apart "" (by decide)
  rw [resolved, Path.names_split named, above, last, List.foldl_append, List.foldl_cons, List.foldl_nil,
    Path.step, if_neg (apart "." (by decide)), if_neg (apart ".." (by decide))]

/-- Without links, names lead to the place that they spell. -/
theorem Leads.place_resolved {tree : Tree} (unlinked : tree.Unlinked []) {purpose : Purpose} {links : Nat}
    {folder : Place} {names : List String} {found : Target} (led : Leads tree purpose links folder names found) :
    found.place = names.foldl Path.step folder := by
  induction led with
  | here => rfl
  | self _ ih => exact ih
  | above _ ih => exact ih
  | free looked _ => exact (step_looked looked _).symm
  | into looked _ _ ih => rw [ih, List.foldl_cons, step_looked looked]
  | file looked _ => exact (step_looked looked _).symm
  | link looked _ _ => exact (step_looked looked _).symm
  | through _ _ there _ _ => exact absurd there (unlinked _ _ List.nil_prefix)

section Unlinked

variable {tree : Tree} (unlinked : tree.Unlinked []) {path : String} {place : Place}

include unlinked

theorem resolved_of_writable (goal : tree.writable path = .ok place) : place = resolved path := by
  obtain ⟨_, ⟨bytes, led⟩ | ⟨folder, name, rfl, led⟩⟩ := find_of_writable goal
  · exact (find_eq_ok_iff.mp led).2.2.place_resolved unlinked
  · exact (find_eq_ok_iff.mp led).2.2.place_resolved unlinked

theorem resolved_of_lookup {entry : Entry} (plain : Path.endsInSlash path = false)
    (found : tree.lookup path = .ok (place, entry)) : place = resolved path := by
  have led := lookup_eq_ok_iff.mp found
  rw [stepsOf_plain plain] at led
  exact (find_eq_ok_iff.mp led).2.2.place_resolved unlinked

end Unlinked

theorem Frame.unlinked {written : Place → Prop} {before after : Tree} (frame : Frame written before after)
    {folder : Place} (unlinked : before.Unlinked folder) : after.Unlinked folder := by
  intro place goal inside found
  rcases frame.entry place with same | ⟨_, made⟩ | ⟨_, bytes, file⟩
  · exact unlinked place goal inside (same ▸ found)
  · rw [made] at found
    cases found
  · rw [file] at found
    cases found

/-- Without links, saving writes no file but the one at the place that the path spells. -/
theorem saveText_frame_resolved {tree : Tree} (unlinked : tree.Unlinked []) (path text : String) :
    Frame (· = resolved path) tree (tree.saveText path text).1 := by
  refine saveText_frame_of (fun place goal => ?_) text
  have made : Frame (· = resolved path) tree (tree.ensureFolders (Path.parent path)).1 :=
    ensureFolders_frame tree (Path.parent path)
  exact resolved_of_writable (made.unlinked unlinked) goal

/-! ## What paths go on leading to -/

theorem Leads.grow_entry {before after : Tree} (grows : Grows before after) {purpose : Purpose} {links : Nat}
    {folder place : Place} {names : List String} {found : Target}
    (led : Leads before purpose links folder names found) {entry : Entry} (there : found = .entry place entry) :
    ∃ later, entry.Kept later ∧ Leads after purpose links folder names (.entry place later) := by
  induction led with
  | here =>
    cases there
    exact ⟨.folder, .inl rfl, .here⟩
  | self _ ih =>
    obtain ⟨later, kept, leads⟩ := ih there
    exact ⟨later, kept, .self leads⟩
  | above _ ih =>
    obtain ⟨later, kept, leads⟩ := ih there
    exact ⟨later, kept, .above leads⟩
  | free => cases there
  | into looked present _ ih =>
    obtain ⟨later, kept, leads⟩ := ih there
    obtain ⟨_, still, rfl | ⟨_, _, impossible, _⟩⟩ := grows.kept _ _ present
    · exact ⟨later, kept, .into looked still leads⟩
    · cases impossible
  | file looked present =>
    cases there
    obtain ⟨entry, still, kept⟩ := grows.kept _ _ present
    obtain ⟨bytes, rfl⟩ := kept.file
    exact ⟨_, kept, .file looked still⟩
  | link looked stop present =>
    cases there
    obtain ⟨_, still, rfl | ⟨_, _, impossible, _⟩⟩ := grows.kept _ _ present
    · exact ⟨_, .inl rfl, .link looked stop still⟩
    · cases impossible
  | through looked goes present _ ih =>
    obtain ⟨later, kept, leads⟩ := ih there
    obtain ⟨_, still, rfl | ⟨_, _, impossible, _⟩⟩ := grows.kept _ _ present
    · exact ⟨later, kept, .through looked goes still leads⟩
    · cases impossible

/-- A path goes on leading to the same if the file there, should it be one, stays the same. -/
theorem lookup_kept {before after : Tree} (grows : Grows before after) {path : String} {place : Place}
    {entry : Entry} (found : before.lookup path = .ok (place, entry))
    (same : after.fileAt? place = before.fileAt? place) : after.lookup path = .ok (place, entry) := by
  obtain ⟨some_char, short, leads⟩ := find_eq_ok_iff.mp (lookup_eq_ok_iff.mp found)
  obtain ⟨later, kept, still⟩ := leads.grow_entry grows rfl
  have there : after.lookup path = .ok (place, later) :=
    lookup_eq_ok_iff.mpr (find_eq_ok_iff.mpr ⟨some_char, short, still⟩)
  -- only a file can have changed, and then its bytes are those of the place
  rcases kept with rfl | ⟨bytes, text, rfl, rfl⟩
  · exact there
  · have old : before.get? place = some (.file bytes) := leads.target_in
    have new : after.get? place = some (.file (Text.Utf8.encode text)) := still.target_in
    simp only [fileAt?, old, new] at same
    rw [there, Option.some.inj same]

end Tree

end Refactory.Workspace
