import Refactory.Proofs.Text.Search
import Refactory.Proofs.Workspace.Walk

/-! The parts of a path: its names are those of the folder above it and then its last one. -/

set_option autoImplicit false

namespace Refactory.Workspace.Path

/-! ## Names -/

theorem piecesOf_cons (mark c : Char) (rest : List Char) : Text.piecesOf mark (c :: rest) =
    if c = mark then [] :: Text.piecesOf mark rest
    else match Text.piecesOf mark rest with
      | piece :: pieces => (c :: piece) :: pieces
      | [] => [[c]] := rfl

theorem piecesOf_ne_nil (mark : Char) (chars : List Char) : Text.piecesOf mark chars ≠ [] := by
  cases chars with
  | nil => exact List.cons_ne_nil _ _
  | cons c rest =>
    rw [piecesOf_cons]
    split
    · exact List.cons_ne_nil _ _
    · split <;> exact List.cons_ne_nil _ _

theorem piecesOf_append_mark (mark : Char) (first second : List Char) :
    Text.piecesOf mark (first ++ mark :: second) = Text.piecesOf mark first ++ Text.piecesOf mark second := by
  induction first with
  | nil =>
    rw [List.nil_append, piecesOf_cons, if_pos rfl]
    rfl
  | cons c first ih =>
    obtain ⟨piece, pieces, some_piece⟩ := List.exists_cons_of_ne_nil (piecesOf_ne_nil mark first)
    rw [List.cons_append, piecesOf_cons, piecesOf_cons, ih, some_piece]
    split <;> rfl

theorem piecesOf_plain {mark : Char} {chars : List Char} (plain : mark ∉ chars) :
    Text.piecesOf mark chars = [chars] := by
  induction chars with
  | nil => rfl
  | cons c chars ih =>
    have other : c ≠ mark := fun same => plain (same ▸ List.mem_cons_self)
    rw [piecesOf_cons, if_neg other, ih (List.not_mem_of_not_mem_cons plain)]

def namesOf (chars : List Char) : List String :=
  ((Text.piecesOf '/' chars).map String.ofList).filter (· ≠ "")

theorem names_eq (path : String) : names path = namesOf path.toList := rfl

theorem namesOf_nil : namesOf [] = [] := rfl

theorem namesOf_append_slash (first second : List Char) :
    namesOf (first ++ '/' :: second) = namesOf first ++ namesOf second := by
  unfold namesOf
  rw [piecesOf_append_mark, List.map_append, List.filter_append]

theorem namesOf_plain {chars : List Char} (plain : '/' ∉ chars) (some_char : chars ≠ []) :
    namesOf chars = [String.ofList chars] := by
  have spelled : String.ofList chars ≠ "" := by
    intro empty
    exact some_char (by simpa using congrArg String.toList empty)
  unfold namesOf
  rw [piecesOf_plain plain, List.map_singleton, List.filter_cons_of_pos (by simpa using spelled),
    List.filter_nil]

theorem namesOf_append_slashes (chars : List Char) {slashes : List Char} (only : ∀ c ∈ slashes, c = '/') :
    namesOf (chars ++ slashes) = namesOf chars := by
  induction slashes generalizing chars with
  | nil => rw [List.append_nil]
  | cons c slashes ih =>
    obtain rfl := only c List.mem_cons_self
    have rest := ih [] fun c member => only c (List.mem_cons_of_mem _ member)
    rw [List.nil_append] at rest
    rw [namesOf_append_slash, rest, namesOf_nil, List.append_nil]

/-- Characters are without the mark, or some without it come before one. -/
theorem mark_induction (mark : Char) {motive : List Char → Prop}
    (plain : ∀ chars, mark ∉ chars → motive chars)
    (marked : ∀ first second, mark ∉ first → motive first → motive second → motive (first ++ mark :: second))
    (chars : List Char) : motive chars := by
  induction size : chars.length using Nat.strongRecOn generalizing chars with
  | _ _ ih =>
    by_cases found : mark ∈ chars
    · obtain ⟨first, second, rfl, free⟩ := List.eq_append_cons_of_mem found
      have shorter : second.length < (first ++ mark :: second).length := by
        simp only [List.length_append, List.length_cons]
        omega
      exact marked first second free (plain first free) (ih _ (size ▸ shorter) second rfl)
    · exact plain chars found

/-- What is replaced by something without slashes that is not shorter, is replaced in each of the names. -/
theorem namesOf_replaceFrom {first : Char} {old new : List Char} (other : '/' ≠ first) (noOld : '/' ∉ old)
    (noNew : '/' ∉ new) (longer : (first :: old).length ≤ new.length) (chars : List Char) :
    namesOf (Text.replaceFrom (first :: old) new 0 chars) =
      (namesOf chars).map fun name => String.ofList (Text.replaceFrom (first :: old) new 0 name.toList) := by
  induction chars using mark_induction '/' with
  | plain chars free =>
    cases chars with
    | nil => rfl
    | cons c rest =>
      have still : '/' ∉ Text.replaceFrom (first :: old) new 0 (c :: rest) := fun member =>
        (Text.mem_of_mem_replaceFrom member).elim free noNew
      have size := Text.length_le_replaceFrom (List.length_pos_iff.mpr (List.cons_ne_nil first old)) longer 0
        (c :: rest)
      have some_char : Text.replaceFrom (first :: old) new 0 (c :: rest) ≠ [] := by
        intro empty
        rw [empty] at size
        cases size
      rw [namesOf_plain still some_char, namesOf_plain free (List.cons_ne_nil _ _), List.map_singleton,
        String.toList_ofList]
  | marked before after _ left right =>
    have free : '/' ∉ first :: old := List.not_mem_cons_of_ne_of_not_mem other noOld
    rw [Text.replaceFrom_parted (List.cons_ne_nil first old) free, namesOf_append_slash, namesOf_append_slash,
      left, right, List.map_append]

theorem exists_name_of_infix {part : List Char} (noSlash : '/' ∉ part) (some_char : part ≠ [])
    {chars : List Char} (found : part <:+: chars) : ∃ name ∈ namesOf chars, part <:+: name.toList := by
  induction chars using mark_induction '/' with
  | plain chars free =>
    have some_name : chars ≠ [] := by
      rintro rfl
      exact some_char (List.infix_nil.mp found)
    refine ⟨String.ofList chars, ?_, by rwa [String.toList_ofList]⟩
    rw [namesOf_plain free some_name]
    exact List.mem_singleton_self _
  | marked first second _ left right =>
    rw [namesOf_append_slash]
    rcases (Text.infix_append_mark_iff first second noSlash).mp found with before | after
    · obtain ⟨name, member, inside⟩ := left before
      exact ⟨name, List.mem_append_left _ member, inside⟩
    · obtain ⟨name, member, inside⟩ := right after
      exact ⟨name, List.mem_append_right _ member, inside⟩

theorem names_join {name : String} (folder : String) (noSlash : '/' ∉ name.toList) (some_char : name ≠ "") :
    names (join folder name) = names folder ++ [name] := by
  have last : namesOf name.toList = [name] := by
    rw [namesOf_plain noSlash (by simpa using some_char), String.ofList_toList]
  have joined (path : List Char) : namesOf (path ++ '/' :: name.toList) = namesOf path ++ [name] := by
    rw [namesOf_append_slash, last]
  unfold join
  split
  · next bare =>
    rcases Bool.or_eq_true_iff.mp bare with empty | slash
    · obtain rfl := of_decide_eq_true empty
      rw [names_eq, names_eq, String.toList_append, String.toList_empty, List.nil_append, last, namesOf_nil,
        List.nil_append]
    · unfold endsInSlash Text.endsWith at slash
      obtain ⟨before, whole⟩ := List.isSuffixOf_iff_suffix.mp slash
      have split : folder.toList = before ++ ['/'] := whole.symm
      rw [names_eq, names_eq, String.toList_append, split, List.append_assoc, List.singleton_append, joined,
        namesOf_append_slashes before (by simp)]
  · rw [names_eq, names_eq, String.toList_append, String.toList_append, List.append_assoc]
    exact joined folder.toList

theorem isAbsolute_join_eq {folder : String} (some_char : folder ≠ "") (name : String) :
    isAbsolute (join folder name) = isAbsolute folder := by
  obtain ⟨first, rest, spelled⟩ := List.exists_cons_of_ne_nil (mt String.toList_eq_nil_iff.mp some_char)
  have start (more : List Char) :
      Text.startsWith (folder ++ String.ofList more) "/" = Text.startsWith folder "/" := by
    simp [Text.startsWith, spelled, List.isPrefixOf]
  unfold join isAbsolute
  split
  · rw [← start name.toList, String.ofList_toList]
  · rw [← start ('/' :: name.toList), String.append_assoc]
    congr 2
    rw [← String.toList_inj]
    simp

/-! ## The last name and the folder above -/

theorem withoutFinalSlashes_append (path : String) :
    ∃ slashes, (∀ c ∈ slashes, c = '/') ∧ path.toList = (withoutFinalSlashes path).toList ++ slashes := by
  unfold withoutFinalSlashes
  dsimp only
  split
  · exact ⟨[], nofun, (List.append_nil _).symm⟩
  · refine ⟨(path.toList.reverse.takeWhile (· = '/')).reverse, ?_, ?_⟩
    · intro c member
      have passed := List.all_takeWhile (p := (· = '/')) (l := path.toList.reverse)
      rw [List.all_eq_true] at passed
      simpa using passed c (List.mem_reverse.mp member)
    · rw [String.toList_ofList, ← List.reverse_append, List.takeWhile_append_dropWhile,
        List.reverse_reverse]

theorem split_eq (path : String) : split path = (parent path, fileName path) :=
  (Prod.eta (split path)).symm

theorem parent_eq (path : String) : parent path =
    withoutFinalSlashes (String.ofList (path.toList.reverse.dropWhile (· ≠ '/')).reverse) := by
  simp only [parent, split]

/-- A path is what is above it, slashes, and its last part; there is a slash before that unless
nothing is. -/
theorem split_append (path : String) : ∃ head slashes : List Char,
    path.toList = head ++ (fileName path).toList ∧ (head = [] ∨ ∃ before, head = before ++ ['/']) ∧
      head = (parent path).toList ++ slashes ∧ ∀ c ∈ slashes, c = '/' := by
  let head := (path.toList.reverse.dropWhile (· ≠ '/')).reverse
  obtain ⟨slashes, only, cut⟩ := withoutFinalSlashes_append (String.ofList head)
  rw [String.toList_ofList, ← parent_eq] at cut
  refine ⟨head, slashes, ?_, ?_, cut, only⟩
  · have whole := congrArg List.reverse
      (List.takeWhile_append_dropWhile (p := (· ≠ '/')) (l := path.toList.reverse))
    rw [List.reverse_append, List.reverse_reverse] at whole
    simp only [fileName, split, String.toList_ofList, head, whole]
  · cases kept : path.toList.reverse.dropWhile (· ≠ '/') with
    | nil =>
      refine Or.inl ?_
      simp only [head, kept, List.reverse_nil]
    | cons c rest =>
      have stopped := List.head?_dropWhile_not (p := (· ≠ '/')) path.toList.reverse
      rw [kept] at stopped
      obtain rfl : c = '/' := by simpa using stopped
      refine Or.inr ⟨rest.reverse, ?_⟩
      simp only [head, kept, List.reverse_cons]

theorem slash_not_mem_fileName (path : String) : '/' ∉ (fileName path).toList := by
  intro member
  rw [fileName, split, String.toList_ofList, List.mem_reverse] at member
  have passed := List.all_takeWhile (p := (· ≠ '/')) (l := path.toList.reverse)
  rw [List.all_eq_true] at passed
  simpa using passed '/' member

theorem prefix_parent (path : String) : (parent path).toList <+: path.toList := by
  obtain ⟨head, slashes, whole, _, cut, _⟩ := split_append path
  rw [whole, cut, List.append_assoc]
  exact List.prefix_append ..

theorem endsInSlash_iff {path : String} : endsInSlash path = true ↔ ['/'] <:+ path.toList := by
  unfold endsInSlash Text.endsWith
  exact List.isSuffixOf_iff_suffix

/-- A path without a last name ends in a slash, and has the names of what is above it. -/
theorem names_of_unnamed {path : String} (some_char : path ≠ "") (unnamed : fileName path = "") :
    endsInSlash path = true ∧ names path = names (parent path) := by
  obtain ⟨head, slashes, whole, border, cut, only⟩ := split_append path
  rw [unnamed, String.toList_empty, List.append_nil] at whole
  constructor
  · rcases border with rfl | ⟨before, rfl⟩
    · exact absurd (String.toList_eq_nil_iff.mp whole) some_char
    · exact endsInSlash_iff.mpr ⟨before, whole.symm⟩
  · rw [names_eq, names_eq, whole, cut, namesOf_append_slashes _ only]

theorem names_split {path : String} (named : fileName path ≠ "") :
    names path = names (parent path) ++ [fileName path] := by
  obtain ⟨head, slashes, whole, border, cut, only⟩ := split_append path
  have last : namesOf (fileName path).toList = [fileName path] := by
    rw [namesOf_plain (slash_not_mem_fileName path) (by simpa using named), String.ofList_toList]
  have first : names (parent path) = namesOf head := by
    rw [names_eq, cut, namesOf_append_slashes _ only]
  rw [first, names_eq, whole]
  rcases border with rfl | ⟨before, rfl⟩
  · rw [List.nil_append, last, namesOf_nil, List.nil_append]
  · rw [List.append_assoc, List.singleton_append, namesOf_append_slash, last,
      namesOf_append_slashes before (by simp)]

theorem names_withoutFinalSlashes {path : String} (slash : endsInSlash (withoutFinalSlashes path) = true) :
    names (withoutFinalSlashes path) = [] := by
  unfold withoutFinalSlashes at slash ⊢
  dsimp only at slash ⊢
  split at slash
  · next nothing =>
    rw [if_pos nothing, names_eq, ← List.nil_append path.toList, namesOf_append_slashes [] ?_, namesOf_nil]
    intro c member
    have whole := List.takeWhile_append_dropWhile (p := (· = '/')) (l := path.toList.reverse)
    rw [List.isEmpty_iff.mp nothing, List.append_nil] at whole
    have passed := List.all_takeWhile (p := (· = '/')) (l := path.toList.reverse)
    rw [whole, List.all_eq_true] at passed
    simpa using passed c (List.mem_reverse.mpr member)
  · next some_kept =>
    rw [endsInSlash_iff, String.toList_ofList] at slash
    -- the last character that was kept stopped the search, so it is no slash
    obtain ⟨before, whole⟩ := slash
    have reversed := congrArg List.reverse whole
    rw [List.reverse_append, List.reverse_reverse] at reversed
    have stopped := List.head?_dropWhile_not (p := (· = '/')) path.toList.reverse
    rw [← reversed] at stopped
    simp at stopped

theorem names_parent_of_slash {path : String} (slash : endsInSlash (parent path) = true) :
    names (parent path) = [] := by
  rw [parent_eq] at slash ⊢
  exact names_withoutFinalSlashes slash

theorem isAbsolute_parent_eq (path : String) : isAbsolute (parent path) = isAbsolute path := by
  rw [Bool.eq_iff_iff]
  constructor
  · intro absolute
    rw [isAbsolute_iff] at absolute ⊢
    exact absolute.trans (prefix_parent path)
  · exact isAbsolute_parent

theorem withoutFinalSlashes_ne_empty {path : String} (some_char : path ≠ "") :
    withoutFinalSlashes path ≠ "" := by
  unfold withoutFinalSlashes
  dsimp only
  split
  · exact some_char
  · next kept =>
    intro empty
    have nothing := congrArg String.toList empty
    rw [String.toList_ofList, String.toList_empty, List.reverse_eq_nil_iff] at nothing
    exact kept (List.isEmpty_iff.mpr nothing)

theorem parent_ne_empty {path : String} (slash : '/' ∈ path.toList) : parent path ≠ "" := by
  rw [parent_eq]
  apply withoutFinalSlashes_ne_empty
  intro empty
  have nothing := congrArg String.toList empty
  rw [String.toList_ofList, String.toList_empty, List.reverse_eq_nil_iff] at nothing
  have whole := List.takeWhile_append_dropWhile (p := (· ≠ '/')) (l := path.toList.reverse)
  rw [nothing, List.append_nil] at whole
  have passed := List.all_takeWhile (p := (· ≠ '/')) (l := path.toList.reverse)
  rw [whole, List.all_eq_true] at passed
  simpa using passed '/' (List.mem_reverse.mpr slash)

theorem utf8ByteSize_parent_le (path : String) : (parent path).utf8ByteSize ≤ path.utf8ByteSize := by
  obtain ⟨rest, whole⟩ := prefix_parent path
  have same : path = parent path ++ String.ofList rest := by
    rw [← String.toList_inj, String.toList_append, String.toList_ofList, whole]
  have size := congrArg String.utf8ByteSize same
  rw [String.utf8ByteSize_append] at size
  omega

end Refactory.Workspace.Path
