import Refactory.Proofs.Text.Lines
import Refactory.Proofs.Text.Utf8
import Refactory.Proofs.Workspace.Saving

/-! What is read from a file that has just been written.

A path that can be written to leads, once it has been written, to what was written, also through links
whose targets were not there. A text comes back with its line ends unified.
-/

set_option autoImplicit false

namespace Refactory.Workspace.Tree

theorem Leads.put_file {tree : Tree} {purpose : Purpose} {links : Nat} {folder place : Place} {names : List String}
    {name : String} {found : Target} (led : Leads tree purpose links folder names found)
    (free : found = .free place name) (bytes : List UInt8) :
    Leads (tree.put (place ++ [name]) (.file bytes)) purpose links folder names
      (.entry (place ++ [name]) (.file bytes)) := by
  -- what is passed on the way is there already, so it is not the place that is free
  have missing : tree.get? (place ++ [name]) = none := (free ▸ led).target_in
  have still {other : Place} {entry : Entry} (there : tree.get? other = some entry) :
      (tree.put (place ++ [name]) (.file bytes)).get? other = some entry := by
    rw [get?_put_ne, there]
    rintro rfl
    rw [missing] at there
    cases there
  clear missing
  induction led with
  | here => cases free
  | self _ ih => exact .self (ih free)
  | above _ ih => exact .above (ih free)
  | free looked _ =>
    cases free
    exact .file looked (get?_put_self ..)
  | into looked there _ ih => exact .into looked (still there) (ih free)
  | file => cases free
  | link => cases free
  | through looked goes there _ ih => exact .through looked goes (still there) (ih free)

/-- A path that can be written to leads to what is put at its place. -/
theorem lookup_put_writable {tree : Tree} {path : String} {place : Place} (goal : tree.writable path = .ok place)
    (text : String) :
    (tree.put place (.file (Text.Utf8.encode text))).lookup path = .ok (place, .file (Text.Utf8.encode text)) := by
  obtain ⟨plain, ⟨bytes, led⟩ | ⟨folder, name, rfl, led⟩⟩ := find_of_writable goal
  · have grows : Grows tree (tree.put place (.file (Text.Utf8.encode text))) := .put fun old there => by
      obtain ⟨before, rfl⟩ := file_of_writable goal there
      exact .inr ⟨before, text, rfl, rfl⟩
    rw [← stepsOf_plain plain] at led
    obtain ⟨later, there, found⟩ := lookup_grow grows (lookup_eq_ok_iff.mpr led)
    rw [get?_put_self] at there
    cases there
    exact found
  · obtain ⟨some_char, short, leads⟩ := find_eq_ok_iff.mp led
    rw [lookup_eq_ok_iff, stepsOf_plain plain]
    exact find_eq_ok_iff.mpr ⟨some_char, short, leads.put_file rfl _⟩

theorem lookup_of_readBytes {tree : Tree} {path : String} {bytes : List UInt8}
    (read : tree.readBytes path = .ok bytes) :
    '\x00' ∉ path.toList ∧ ∃ place, tree.lookup path = .ok (place, .file bytes) := by
  unfold readBytes checked at read
  split at read
  · cases read
  · next noNull =>
    refine ⟨by simpa using noNull, ?_⟩
    cases found : tree.lookup path with
    | error cause =>
      rw [found] at read
      cases read
    | ok entry =>
      rw [found] at read
      rcases entry with ⟨place, _ | there | _⟩ <;> cases read
      exact ⟨place, rfl⟩

theorem writeText_eq {tree : Tree} {path : String} {place : Place} (noNull : '\x00' ∉ path.toList)
    (goal : tree.writable path = .ok place) (text : String) :
    tree.writeText path text = .ok (tree.put place (.file (Text.Utf8.encode text))) := by
  unfold writeText writeBytes
  rw [checked_eq noNull, goal]
  rfl

/-- A text is read as it was written, with its line ends unified. -/
theorem readText_written {tree : Tree} {path : String} {place : Place} (noNull : '\x00' ∉ path.toList)
    (goal : tree.writable path = .ok place) (text : String) :
    (tree.put place (.file (Text.Utf8.encode text))).readText path =
      .ok (String.ofList (Text.unifyLineEnds text.toList)) := by
  unfold readText
  rw [readBytes_of_lookup noNull (lookup_put_writable goal text)]
  change ((Text.Utf8.decode (Text.Utf8.encode text)).mapError _ >>= _) = _
  rw [Text.Utf8.decode_encode]
  rfl

theorem readText_put {tree : Tree} {path text : String} {place : Place} (noNull : '\x00' ∉ path.toList)
    (goal : tree.writable path = .ok place) (noReturn : '\r' ∉ text.toList) :
    (tree.put place (.file (Text.Utf8.encode text))).has path = true ∧
      (tree.put place (.file (Text.Utf8.encode text))).readText path = .ok text := by
  constructor
  · unfold has
    rw [checked_eq noNull, lookup_put_writable goal text]
    rfl
  · rw [readText_written noNull goal, Text.unifyLineEnds_of_no_return noReturn, String.ofList_toList]

end Refactory.Workspace.Tree
