import Refactory.Proofs.Workspace.Saving
import Refactory.Workspace.Walk

/-! A tree in which one file has other bytes.

Paths lead to the same places as before, and a walk comes by the same folders and files. Only what is read
from the file itself is different.
-/

set_option autoImplicit false

namespace Refactory.Workspace

namespace Tree

def refill (tree : Tree) (place : Place) (bytes : List UInt8) : Tree :=
  { tree with entries := tree.entries.map fun entry => if entry.1 = place then (place, .file bytes) else entry }

def Target.refill (place : Place) (bytes : List UInt8) : Target → Target
  | .entry found (.file old) => .entry found (.file (if found = place then bytes else old))
  | found => found

section Refilled

variable {tree : Tree} {place : Place} (bytes : List UInt8)

theorem get?_refill (other : Place) : (tree.refill place bytes).get? other =
    if other = place then (tree.get? place).map fun _ => .file bytes else tree.get? other := by
  obtain ⟨entries, _⟩ := tree
  unfold get? refill
  induction entries with
  | nil => simp
  | cons entry rest ih =>
    obtain ⟨found, there⟩ := entry
    rw [List.map_cons]
    by_cases here : found = place
    · rw [if_pos here]
      subst here
      by_cases same : other = found
      · rw [if_pos same, same, List.lookup_cons_self, List.lookup_cons_self]
        rfl
      · have apart : (other == found) = false := beq_eq_false_iff_ne.mpr same
        rw [if_neg same] at ih ⊢
        simp only [List.lookup_cons, apart, ih]
    · rw [if_neg here]
      have elsewhere : (place == found) = false := beq_eq_false_iff_ne.mpr fun same => here same.symm
      by_cases same : other = found
      · rw [same, if_neg here, List.lookup_cons_self, List.lookup_cons_self]
      · have apart : (other == found) = false := beq_eq_false_iff_ne.mpr same
        simp only [List.lookup_cons, apart, elsewhere, ih]

theorem namesIn_refill (folder : Place) : (tree.refill place bytes).namesIn folder = tree.namesIn folder := by
  have places : (tree.refill place bytes).entries.map Prod.fst = tree.entries.map Prod.fst := by
    rw [refill, List.map_map]
    apply List.map_congr_left
    intro entry _
    rw [Function.comp_apply]
    split
    · next same => exact same.symm
    · rfl
  have byPlaces (entries : List (Place × Entry)) : entries.filterMap (fun entry =>
      if entry.1.dropLast = folder then entry.1.getLast? else none) =
      (entries.map Prod.fst).filterMap fun found =>
        if found.dropLast = folder then found.getLast? else none := by
    rw [List.filterMap_map]
    rfl
  rw [namesIn, namesIn, byPlaces, byPlaces, places]
  rfl

/-! ## Paths -/

variable {old : List UInt8} (held : tree.get? place = some (.file old))

include held

theorem follow_refill {purpose : Purpose} {onLink onLink' : Place → List String → Except Cause Target}
    (through : ∀ folder names, onLink' folder names = (onLink folder names).map (Target.refill place bytes))
    (names : List String) (folder : Place) :
    (tree.refill place bytes).follow purpose onLink' folder names =
      (tree.follow purpose onLink folder names).map (Target.refill place bytes) := by
  induction names generalizing folder with
  | nil => rfl
  | cons name rest ih =>
    rw [follow, follow]
    by_cases self : name = "."
    · rw [if_pos self, if_pos self, ih]
    by_cases above : name = ".."
    · rw [if_neg self, if_neg self, if_pos above, if_pos above, ih]
    by_cases long : nameLimit < name.utf8ByteSize
    · simp only [self, above, long, if_true, if_false]
      rfl
    simp only [self, above, long, if_false]
    by_cases same : folder ++ [name] = place
    · rw [get?_refill, if_pos same, same, held]
      simp only [Option.map_some]
      split
      · change Except.ok _ = Except.ok (Target.refill place bytes _)
        rw [Target.refill, if_pos rfl]
      · rfl
    · rw [get?_refill, if_neg same]
      cases found : tree.get? (folder ++ [name]) with
      | none =>
        dsimp only
        split <;> rfl
      | some entry =>
        cases entry with
        | folder => exact ih _
        | file there =>
          dsimp only
          split
          · change Except.ok _ = Except.ok (Target.refill place bytes _)
            rw [Target.refill, if_neg same]
          · rfl
        | link target =>
          dsimp only
          split
          · rfl
          · exact through _ _

theorem find_refill (purpose : Purpose) (path : String) (steps : List String) :
    (tree.refill place bytes).find purpose path steps =
      (tree.find purpose path steps).map (Target.refill place bytes) := by
  have followed (links : Nat) (folder : Place) (names : List String) :
      (tree.refill place bytes).followLinks purpose links folder names =
        (tree.followLinks purpose links folder names).map (Target.refill place bytes) := by
    induction links generalizing folder names with
    | zero =>
      rw [followLinks, followLinks]
      refine follow_refill bytes held ?_ names folder
      exact fun _ _ => rfl
    | succ links ih => exact follow_refill bytes held ih names folder
  unfold find
  split
  · rfl
  · split
    · rfl
    · exact followed _ _ _

/-- The entry that a path leads to is the same, up to the bytes of the file. -/
theorem lookup_refill (path : String) : (tree.refill place bytes).lookup path = tree.lookup path ∨
    tree.lookup path = .ok (place, .file old) ∧
      (tree.refill place bytes).lookup path = .ok (place, .file bytes) := by
  unfold lookup
  rw [find_refill bytes held]
  cases led : tree.find .reading path (stepsOf path) with
  | error cause => exact Or.inl rfl
  | ok target =>
    cases target with
    | free folder name => exact Or.inl rfl
    | entry found entry =>
      cases entry with
      | folder => exact Or.inl rfl
      | link goal => exact Or.inl rfl
      | file there =>
        change (Except.ok (found, Entry.file (if found = place then bytes else there)) :
            Except Cause (Place × Entry)) = .ok (found, .file there) ∨
          Except.ok (found, Entry.file there) = .ok (place, .file old) ∧
            Except.ok (found, Entry.file (if found = place then bytes else there)) =
              .ok (place, .file bytes)
        by_cases same : found = place
        · -- the tree has one file at the place, so it is the one that the path leads to
          have own : tree.get? found = some (.file there) := (find_eq_ok_iff.mp led).2.2.target_in
          rw [same, held] at own
          cases own
          rw [if_pos same, same]
          exact Or.inr ⟨rfl, rfl⟩
        · rw [if_neg same]
          exact Or.inl rfl

theorem isFolder_refill (path : String) :
    (tree.refill place bytes).isFolder path = tree.isFolder path := by
  unfold isFolder
  rcases lookup_refill bytes held path with same | ⟨before, after⟩
  · rw [same]
  · rw [before, after, checked, checked]
    by_cases null : path.toList.contains '\x00' = true
    · rw [if_pos null, if_pos null]
    · rw [if_neg null, if_neg null]
      rfl

theorem isLink_refill (path : String) : (tree.refill place bytes).isLink path = tree.isLink path := by
  rw [isLink, isLink, find_refill bytes held, checked, checked]
  by_cases null : path.toList.contains '\x00' = true
  · rw [if_pos null, if_pos null]
  · rw [if_neg null, if_neg null]
    cases tree.find .naming path (Path.names path) with
    | error cause => rfl
    | ok target =>
      cases target with
      | free folder name => rfl
      | entry found entry => cases entry <;> rfl

/-! ## Walks -/

theorem visitsWithin_refill (depth : Nat) (path : String) :
    (tree.refill place bytes).visitsWithin depth path = tree.visitsWithin depth path := by
  induction depth generalizing path with
  | zero => rfl
  | succ depth ih =>
    rw [visitsWithin, visitsWithin]
    rcases lookup_refill bytes held path with same | ⟨before, after⟩
    · simp only [same, namesIn_refill, isFolder_refill bytes held, isLink_refill bytes held, ih]
    · rw [before, after]

theorem visits_refill (path : String) :
    (tree.refill place bytes).visits path = tree.visits path := by
  have size : (tree.refill place bytes).entries.length = tree.entries.length := List.length_map _
  rw [visits, visits, size, visitsWithin_refill bytes held]

/-! ## Reading -/

theorem readBytes_refill (path : String) :
    (tree.refill place bytes).readBytes path = tree.readBytes path ∨
      tree.readBytes path = .ok old ∧ (tree.refill place bytes).readBytes path = .ok bytes := by
  unfold readBytes
  rcases lookup_refill bytes held path with same | ⟨before, after⟩
  · rw [same]
    exact Or.inl rfl
  · rw [before, after]
    unfold checked
    split
    · exact Or.inl rfl
    · exact Or.inr ⟨rfl, rfl⟩

end Refilled

end Tree

end Refactory.Workspace
