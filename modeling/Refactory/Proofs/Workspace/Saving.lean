import Refactory.Proofs.Workspace.Path
import Refactory.Workspace.Files

/-! What saving a text does to a tree.

Saving puts in folders and files where nothing was, and gives files the bytes of a text. It never takes
an entry away, so a path that leads to a file goes on leading there.
-/

set_option autoImplicit false

namespace Refactory.Workspace

namespace Tree

/-! ## Entries -/

theorem lookup_filter_ne {entries : List (Place × Entry)} {place other : Place} (apart : other ≠ place) :
    (entries.filter (·.1 ≠ place)).lookup other = entries.lookup other := by
  induction entries with
  | nil => rfl
  | cons entry rest ih =>
    by_cases kept : entry.1 = place
    · have missed : (other == entry.1) = false := by simpa [kept] using apart
      rw [List.filter_cons_of_neg (by simpa using kept), ih, List.lookup_cons, missed]
    · rw [List.filter_cons_of_pos (by simpa using kept), List.lookup_cons, List.lookup_cons, ih]

@[simp] theorem get?_put_self (tree : Tree) (place : Place) (entry : Entry) :
    (tree.put place entry).get? place = some entry := by
  simp [get?, put]

theorem get?_put_ne (tree : Tree) {place other : Place} (entry : Entry) (apart : other ≠ place) :
    (tree.put place entry).get? other = tree.get? other := by
  have missed : (other == place) = false := by simpa using apart
  unfold get? put
  rw [List.lookup_cons, missed]
  exact lookup_filter_ne apart

end Tree

/-- An entry stays what it is, or is a file that gets the bytes of a text. -/
def Entry.Kept (before after : Entry) : Prop :=
  after = before ∨ ∃ bytes text, before = .file bytes ∧ after = .file (Text.Utf8.encode text)

theorem Entry.Kept.trans {first second third : Entry} (left : first.Kept second)
    (right : second.Kept third) : first.Kept third := by
  rcases left with rfl | ⟨bytes, text, rfl, rfl⟩
  · exact right
  · rcases right with rfl | ⟨_, later, _, rfl⟩
    · exact Or.inr ⟨bytes, text, rfl, rfl⟩
    · exact Or.inr ⟨bytes, later, rfl, rfl⟩

theorem Entry.Kept.file {bytes : List UInt8} {after : Entry} (kept : (Entry.file bytes).Kept after) :
    ∃ later, after = .file later := by
  rcases kept with rfl | ⟨_, text, _, rfl⟩
  · exact ⟨bytes, rfl⟩
  · exact ⟨_, rfl⟩

namespace Tree

structure Grows (before after : Tree) : Prop where
  kept (place : Place) (entry : Entry) : before.get? place = some entry →
    ∃ later, after.get? place = some later ∧ entry.Kept later

namespace Grows

theorem refl (tree : Tree) : Grows tree tree := ⟨fun _ entry found => ⟨entry, found, Or.inl rfl⟩⟩

theorem trans {first second third : Tree} (left : Grows first second) (right : Grows second third) :
    Grows first third := by
  constructor
  intro place entry found
  obtain ⟨middle, between, started⟩ := left.kept place entry found
  obtain ⟨later, ended, finished⟩ := right.kept place middle between
  exact ⟨later, ended, started.trans finished⟩

theorem put {tree : Tree} {place : Place} {entry : Entry}
    (fits : ∀ old, tree.get? place = some old → old.Kept entry) : Grows tree (tree.put place entry) := by
  constructor
  intro other old found
  by_cases same : other = place
  · subst same
    exact ⟨entry, get?_put_self .., fits old found⟩
  · exact ⟨old, by rw [get?_put_ne tree entry same, found], Or.inl rfl⟩

end Grows

/-! ## Following names -/

/-- A name that is looked up, and not one for the folder itself or the one above. -/
structure Looked (name : String) : Prop where
  notSelf : name ≠ "."
  notAbove : name ≠ ".."
  short : ¬ nameLimit < name.utf8ByteSize

theorem Purpose.before_eq_naming {purpose : Purpose} {rest : List String} :
    purpose.before rest = .naming ↔ rest = [] ∧ purpose = .naming := by
  cases rest <;> simp [Purpose.before]

@[simp] theorem Purpose.before_reading (rest : List String) : Purpose.reading.before rest = .reading :=
  ite_self _

/-- Names lead from a folder to a target, through at most so many links. -/
inductive Leads (tree : Tree) (purpose : Purpose) : Nat → Place → List String → Target → Prop where
  | here {links : Nat} {folder : Place} : Leads tree purpose links folder [] (.entry folder .folder)
  | self {links : Nat} {folder : Place} {rest : List String} {found : Target} :
      Leads tree purpose links folder rest found → Leads tree purpose links folder ("." :: rest) found
  | above {links : Nat} {folder : Place} {rest : List String} {found : Target} :
      Leads tree purpose links folder.dropLast rest found →
      Leads tree purpose links folder (".." :: rest) found
  | free {links : Nat} {folder : Place} {name : String} : Looked name →
      tree.get? (folder ++ [name]) = none → Leads tree purpose links folder [name] (.free folder name)
  | into {links : Nat} {folder : Place} {name : String} {rest : List String} {found : Target} : Looked name →
      tree.get? (folder ++ [name]) = some .folder → Leads tree purpose links (folder ++ [name]) rest found →
      Leads tree purpose links folder (name :: rest) found
  | file {links : Nat} {folder : Place} {name : String} {bytes : List UInt8} : Looked name →
      tree.get? (folder ++ [name]) = some (.file bytes) →
      Leads tree purpose links folder [name] (.entry (folder ++ [name]) (.file bytes))
  | link {links : Nat} {folder : Place} {name target : String} : Looked name → purpose = .naming →
      tree.get? (folder ++ [name]) = some (.link target) →
      Leads tree purpose links folder [name] (.entry (folder ++ [name]) (.link target))
  | through {links : Nat} {folder : Place} {name target : String} {rest : List String} {found : Target} :
      Looked name → purpose.before rest ≠ .naming → tree.get? (folder ++ [name]) = some (.link target) →
      Leads tree purpose links (if Path.isAbsolute target then [] else folder)
        ((purpose.before rest).steps target ++ rest) found →
      Leads tree purpose (links + 1) folder (name :: rest) found

def onLink (tree : Tree) (purpose : Purpose) : Nat → Place → List String → Except Cause Target
  | 0 => fun _ _ => .error .tooManyLinks
  | links + 1 => followLinks tree purpose links

theorem followLinks_eq_follow (tree : Tree) (purpose : Purpose) (links : Nat) :
    followLinks tree purpose links = follow tree purpose (onLink tree purpose links) := by
  cases links <;> rfl

theorem Leads.of_follow {tree : Tree} {purpose : Purpose} {links : Nat} {folder : Place} {names : List String}
    {found : Target}
    (through : ∀ folder names found, onLink tree purpose links folder names = .ok found →
      ∃ left, links = left + 1 ∧ Leads tree purpose left folder names found)
    (followed : follow tree purpose (onLink tree purpose links) folder names = .ok found) :
    Leads tree purpose links folder names found := by
  induction names generalizing folder with
  | nil =>
    cases followed
    exact .here
  | cons name rest ih =>
    unfold follow at followed
    split at followed
    · next self => exact self ▸ .self (ih followed)
    · split at followed
      · next above => exact above ▸ .above (ih followed)
      · split at followed
        · cases followed
        · next notSelf notAbove short =>
          have looked : Looked name := ⟨notSelf, notAbove, short⟩
          dsimp only at followed
          split at followed
          · next missing =>
            cases rest with
            | nil =>
              cases followed
              exact .free looked missing
            | cons => cases followed
          · next there => exact .into looked there (ih followed)
          · next bytes there =>
            cases rest with
            | nil =>
              cases followed
              exact .file looked there
            | cons => cases followed
          · next target there =>
            split at followed
            · next ends =>
              obtain ⟨rfl, stop⟩ := Purpose.before_eq_naming.mp ends
              cases followed
              exact .link looked stop there
            · next goes =>
              obtain ⟨left, rfl, led⟩ := through _ _ _ followed
              exact .through looked goes there led

/-- A name that is looked up is treated by what is there. -/
theorem follow_looked {name : String} (looked : Looked name) (tree : Tree) (purpose : Purpose)
    (onLink : Place → List String → Except Cause Target) (folder : Place) (rest : List String) :
    follow tree purpose onLink folder (name :: rest) = match tree.get? (folder ++ [name]) with
      | none => if rest.isEmpty then .ok (.free folder name) else .error .missing
      | some .folder => follow tree purpose onLink (folder ++ [name]) rest
      | some (.file bytes) =>
          if rest.isEmpty then .ok (.entry (folder ++ [name]) (.file bytes)) else .error .notFolder
      | some (.link target) =>
          if purpose.before rest = .naming then .ok (.entry (folder ++ [name]) (.link target))
          else onLink (if Path.isAbsolute target then [] else folder)
            ((purpose.before rest).steps target ++ rest) := by
  rw [follow, if_neg looked.notSelf, if_neg looked.notAbove]
  exact if_neg looked.short

theorem leads_iff {tree : Tree} {purpose : Purpose} {links : Nat} {folder : Place} {names : List String}
    {found : Target} :
    followLinks tree purpose links folder names = .ok found ↔ Leads tree purpose links folder names found := by
  constructor
  · intro followed
    induction links generalizing folder names found with
    | zero => exact .of_follow nofun followed
    | succ links ih => exact .of_follow (fun _ _ _ led => ⟨links, rfl, ih led⟩) followed
  · intro led
    induction led with
    | here => rw [followLinks_eq_follow, follow]
    | self _ ih =>
      rw [followLinks_eq_follow] at ih ⊢
      rw [follow, if_pos rfl, ih]
    | above _ ih =>
      rw [followLinks_eq_follow] at ih ⊢
      rw [follow, if_neg (by decide), if_pos rfl, ih]
    | free looked missing =>
      rw [followLinks_eq_follow, follow_looked looked, missing]
      rfl
    | into looked there _ ih =>
      rw [followLinks_eq_follow] at ih ⊢
      rw [follow_looked looked, there]
      exact ih
    | file looked there =>
      rw [followLinks_eq_follow, follow_looked looked, there]
      rfl
    | link looked stop there =>
      rw [followLinks_eq_follow, follow_looked looked, there]
      exact if_pos (Purpose.before_eq_naming.mpr ⟨rfl, stop⟩)
    | through looked goes there _ ih =>
      rw [followLinks_eq_follow, follow_looked looked, there]
      exact (if_neg goes).trans ih

/-! ## Where names lead -/

def Target.In (tree : Tree) : Target → Prop
  | .entry place (.file bytes) => tree.get? place = some (.file bytes)
  | .entry _ _ => True
  | .free folder name => tree.get? (folder ++ [name]) = none

theorem Leads.target_in {tree : Tree} {purpose : Purpose} {links : Nat} {folder : Place} {names : List String}
    {found : Target} (led : Leads tree purpose links folder names found) : found.In tree := by
  induction led with
  | here => trivial
  | self _ ih => exact ih
  | above _ ih => exact ih
  | free _ missing => exact missing
  | into _ _ _ ih => exact ih
  | file _ there => exact there
  | link => trivial
  | through _ _ _ _ ih => exact ih

/-- Names that lead to a file still do when the tree has grown, and the file is that of the place. -/
theorem Leads.grow {before after : Tree} (grows : Grows before after) {purpose : Purpose} {links : Nat}
    {folder place : Place} {names : List String} {found : Target}
    (led : Leads before purpose links folder names found) {bytes : List UInt8}
    (file : found = .entry place (.file bytes)) :
    ∃ later, after.get? place = some (.file later) ∧
      Leads after purpose links folder names (.entry place (.file later)) := by
  induction led with
  | here => cases file
  | self _ ih =>
    obtain ⟨later, there, leads⟩ := ih file
    exact ⟨later, there, .self leads⟩
  | above _ ih =>
    obtain ⟨later, there, leads⟩ := ih file
    exact ⟨later, there, .above leads⟩
  | free => cases file
  | into looked there _ ih =>
    obtain ⟨later, found, leads⟩ := ih file
    obtain ⟨entry, still, kept⟩ := grows.kept _ _ there
    rcases kept with rfl | ⟨_, _, impossible, _⟩
    · exact ⟨later, found, .into looked still leads⟩
    · cases impossible
  | file looked there =>
    cases file
    obtain ⟨entry, still, kept⟩ := grows.kept _ _ there
    obtain ⟨later, rfl⟩ := kept.file
    exact ⟨later, still, .file looked still⟩
  | link => cases file
  | through looked goes there _ ih =>
    obtain ⟨later, found, leads⟩ := ih file
    obtain ⟨entry, still, kept⟩ := grows.kept _ _ there
    rcases kept with rfl | ⟨_, _, impossible, _⟩
    · exact ⟨later, found, .through looked goes still leads⟩
    · cases impossible

/-- Where names lead on, those before the last one lead to a folder. -/
theorem Leads.before_last {tree : Tree} {links : Nat} {folder : Place} {steps : List String}
    {found : Target} (led : Leads tree .reading links folder steps found) {names : List String}
    {name : String} (split : steps = names ++ [name]) :
    ∃ place, Leads tree .reading links folder names (.entry place .folder) := by
  induction led generalizing names with
  | here => simp at split
  | self _ ih =>
    cases names with
    | nil => exact ⟨_, .here⟩
    | cons first more =>
      obtain ⟨rfl, rest⟩ := List.cons.inj split
      obtain ⟨place, leads⟩ := ih rest
      exact ⟨place, .self leads⟩
  | above _ ih =>
    cases names with
    | nil => exact ⟨_, .here⟩
    | cons first more =>
      obtain ⟨rfl, rest⟩ := List.cons.inj split
      obtain ⟨place, leads⟩ := ih rest
      exact ⟨place, .above leads⟩
  | into looked there _ ih =>
    cases names with
    | nil => exact ⟨_, .here⟩
    | cons first more =>
      obtain ⟨rfl, rest⟩ := List.cons.inj split
      obtain ⟨place, leads⟩ := ih rest
      exact ⟨place, .into looked there leads⟩
  | through looked _ there _ ih =>
    cases names with
    | nil => exact ⟨_, .here⟩
    | cons first more =>
      obtain ⟨rfl, rfl⟩ := List.cons.inj split
      rw [Purpose.before_reading] at ih
      obtain ⟨place, leads⟩ := ih (List.append_assoc ..).symm
      exact ⟨place, .through looked (by simp) there (by rwa [Purpose.before_reading])⟩
  | free | file | link =>
    -- a last name has none before it
    cases names with
    | nil => exact ⟨_, .here⟩
    | cons first more => simp at split

/-- Names that end with the folder itself lead to a folder. -/
theorem Leads.folder_of_self {tree : Tree} {purpose : Purpose} {links : Nat} {folder : Place}
    {steps : List String} {found : Target} (led : Leads tree purpose links folder steps found)
    {names : List String} (split : steps = names ++ ["."]) : ∃ place, found = .entry place .folder := by
  induction led generalizing names with
  | here => exact ⟨_, rfl⟩
  | self leads ih =>
    cases names with
    | nil =>
      rw [(List.cons.inj split).2] at leads
      cases leads
      exact ⟨_, rfl⟩
    | cons first more => exact ih (List.cons.inj split).2
  | above _ ih =>
    cases names with
    | nil => exact absurd (List.cons.inj split).1 (by decide)
    | cons first more => exact ih (List.cons.inj split).2
  | into looked _ _ ih =>
    cases names with
    | nil => exact absurd (List.cons.inj split).1 looked.notSelf
    | cons first more => exact ih (List.cons.inj split).2
  | through looked _ _ _ ih =>
    cases names with
    | nil => exact absurd (List.cons.inj split).1 looked.notSelf
    | cons first more =>
      obtain ⟨_, rfl⟩ := List.cons.inj split
      exact ih (List.append_assoc ..).symm
  | free looked | file looked | link looked =>
    cases names with
    | nil => exact absurd (List.cons.inj split).1 looked.notSelf
    | cons first more => simp at split

/-- A file, or a name that is free for one. -/
def Target.TakesFile : Target → Prop
  | .entry _ (.file _) => True
  | .entry _ _ => False
  | .free _ _ => True

theorem Purpose.steps_of_slash (purpose : Purpose) {path : String} (slash : Path.endsInSlash path = true) :
    ∃ names, purpose.steps path = names ++ ["."] := by
  unfold Purpose.steps
  rw [slash]
  cases purpose <;> exact ⟨_, rfl⟩

theorem Purpose.steps_plain (purpose : Purpose) {path : String} (plain : Path.endsInSlash path = false) :
    purpose.steps path = Path.names path := by
  unfold Purpose.steps
  rw [plain]
  rfl

theorem Leads.plain_of_takesFile {tree : Tree} {purpose other : Purpose} {links : Nat} {folder : Place}
    {path : String} {found : Target} (led : Leads tree purpose links folder (other.steps path) found)
    (taken : found.TakesFile) : Path.endsInSlash path = false := by
  cases slash : Path.endsInSlash path with
  | false => rfl
  | true =>
    obtain ⟨names, split⟩ := other.steps_of_slash slash
    obtain ⟨place, rfl⟩ := led.folder_of_self split
    cases taken

/-- Where a file is or can be, the purpose of getting there makes no difference. -/
theorem Leads.repurpose {tree : Tree} {purpose other : Purpose} (goesOn : other ≠ .naming) {links : Nat}
    {folder : Place} {steps : List String} {found : Target}
    (led : Leads tree purpose links folder steps found) (taken : found.TakesFile) :
    Leads tree other links folder steps found := by
  induction led with
  | here => cases taken
  | self _ ih => exact .self (ih taken)
  | above _ ih => exact .above (ih taken)
  | free looked missing => exact .free looked missing
  | into looked there _ ih => exact .into looked there (ih taken)
  | file looked there => exact .file looked there
  | link => cases taken
  | @through links folder name target rest found looked goes there leads ih =>
    have still : other.before rest ≠ .naming := fun stops => goesOn (Purpose.before_eq_naming.mp stops).2
    refine .through looked still there ?_
    cases rest with
    | cons next more => exact ih taken
    | nil =>
      -- a link whose target ends in a slash leads to no file
      rw [List.append_nil] at leads
      have plain := leads.plain_of_takesFile taken
      rw [Purpose.steps_plain _ plain] at ih ⊢
      exact ih taken

/-! ## Paths -/

def base (path : String) : Place := if Path.isAbsolute path then [] else Path.home

theorem find_eq_ok_iff {tree : Tree} {purpose : Purpose} {path : String} {steps : List String} {found : Target} :
    tree.find purpose path steps = .ok found ↔ path ≠ "" ∧ ¬ pathLimit < path.utf8ByteSize ∧
      Leads tree purpose linkLimit (base path) steps found := by
  unfold find
  split
  · next empty => simp [empty]
  · next some_char =>
    split
    · next long => simp [long]
    · next short =>
      rw [leads_iff]
      simp only [some_char, short, base, ne_eq, not_false_eq_true, true_and]

theorem lookup_eq_ok_iff {tree : Tree} {path : String} {place : Place} {entry : Entry} :
    tree.lookup path = .ok (place, entry) ↔ tree.find .reading path (stepsOf path) = .ok (.entry place entry) := by
  unfold lookup
  cases tree.find .reading path (stepsOf path) with
  | error cause => exact ⟨nofun, nofun⟩
  | ok found =>
    cases found with
    | free folder name => exact ⟨nofun, nofun⟩
    | entry other there =>
      change Except.ok (other, there) = .ok (place, entry) ↔ _
      simp

/-- A path that leads to a file still does when the tree has grown. -/
theorem lookup_grow {before after : Tree} (grows : Grows before after) {path : String} {place : Place}
    {bytes : List UInt8} (found : before.lookup path = .ok (place, .file bytes)) :
    ∃ later, after.get? place = some (.file later) ∧ after.lookup path = .ok (place, .file later) := by
  obtain ⟨some_char, short, leads⟩ := find_eq_ok_iff.mp (lookup_eq_ok_iff.mp found)
  obtain ⟨later, there, still⟩ := leads.grow grows rfl
  exact ⟨later, there, lookup_eq_ok_iff.mpr (find_eq_ok_iff.mpr ⟨some_char, short, still⟩)⟩

theorem stepsOf_plain {path : String} (plain : Path.endsInSlash path = false) :
    stepsOf path = Path.names path :=
  Purpose.reading.steps_plain plain

theorem stepsOf_slash {path : String} (slash : Path.endsInSlash path = true) :
    stepsOf path = Path.names path ++ ["."] := by
  unfold stepsOf Purpose.steps
  rw [slash]
  rfl

theorem lookup_parent {tree : Tree} {path : String} {place : Place} {entry : Entry}
    (found : tree.lookup path = .ok (place, entry)) (named : Path.fileName path ≠ "")
    (plain : Path.endsInSlash path = false) (above : Path.parent path ≠ "") :
    ∃ folder, tree.lookup (Path.parent path) = .ok (folder, .folder) := by
  obtain ⟨_, short, leads⟩ := find_eq_ok_iff.mp (lookup_eq_ok_iff.mp found)
  have same : base (Path.parent path) = base path := by
    rw [base, base, Path.isAbsolute_parent_eq]
  have size := Path.utf8ByteSize_parent_le path
  have limit : ¬ pathLimit < (Path.parent path).utf8ByteSize := by omega
  have reached (folder : Place)
      (led : Leads tree .reading linkLimit (base path) (stepsOf (Path.parent path)) (.entry folder .folder)) :
      tree.lookup (Path.parent path) = .ok (folder, .folder) := by
    rw [← same] at led
    exact lookup_eq_ok_iff.mpr (find_eq_ok_iff.mpr ⟨above, limit, led⟩)
  cases slash : Path.endsInSlash (Path.parent path) with
  | true =>
    refine ⟨base path, reached _ ?_⟩
    rw [stepsOf_slash slash, Path.names_parent_of_slash slash]
    exact .self .here
  | false =>
    rw [stepsOf_plain plain, Path.names_split named] at leads
    obtain ⟨folder, led⟩ := leads.before_last rfl
    exact ⟨folder, reached folder (by rwa [stepsOf_plain slash])⟩

/-! ## Making folders -/

/-- A path without null characters that has a slash at its end only if it is the top. -/
structure Tidy (path : String) : Prop where
  noNull : '\x00' ∉ path.toList
  slash : Path.endsInSlash path = true → Path.names path = []

theorem checked_eq {α : Type} {path : String} (noNull : '\x00' ∉ path.toList) (action : Except Cause α) :
    checked path action = action.mapError (.system · path) := by
  rw [checked, if_neg (by simpa using noNull)]

theorem makeFolder_of_folder {tree : Tree} {path : String} {place : Place} (tidy : Tidy path)
    (found : tree.lookup path = .ok (place, .folder)) :
    ∃ cause, tree.makeFolder path = .error (.system cause path) := by
  unfold makeFolder
  rw [checked_eq tidy.noNull]
  cases named : tree.find .naming path (Path.names path) with
  | error cause => exact ⟨cause, rfl⟩
  | ok target =>
    cases target with
    | entry other entry => exact ⟨.occupied, rfl⟩
    | free folder name =>
      obtain ⟨some_char, short, leads⟩ := find_eq_ok_iff.mp named
      cases slash : Path.endsInSlash path with
      | true =>
        rw [tidy.slash slash] at leads
        cases leads
      | false =>
        have free : tree.find .reading path (Path.names path) = .ok (.free folder name) :=
          find_eq_ok_iff.mpr ⟨some_char, short, leads.repurpose (by decide) trivial⟩
        have there := lookup_eq_ok_iff.mp found
        rw [stepsOf_plain slash, free] at there
        cases there

theorem ensureFolder_of_folder {tree : Tree} {path : String} {place : Place} (tidy : Tidy path)
    (found : tree.lookup path = .ok (place, .folder)) : tree.ensureFolder path = (tree, none) := by
  have folder : tree.isFolder path = true := by
    unfold isFolder
    rw [checked_eq tidy.noNull, found]
    rfl
  obtain ⟨cause, refused⟩ := makeFolder_of_folder tidy found
  unfold ensureFolder
  rw [refused]
  simp only [folder, if_true]

theorem aboveAndLast_named {path : String} (named : Path.fileName path ≠ "") :
    aboveAndLast path = (Path.parent path, Path.fileName path) := by
  unfold aboveAndLast
  rw [Path.split_eq]
  split
  · next same => exact absurd (Prod.mk.inj same).2 named
  · rfl

theorem aboveAndLast_unnamed {path : String} (unnamed : Path.fileName path = "") :
    aboveAndLast path =
      (Path.parent (Path.parent path), Path.fileName (Path.parent path)) := by
  simp only [aboveAndLast, Path.split_eq, unnamed]

/-- What is above a tidy path that leads somewhere leads somewhere, if it has a name. -/
theorem has_above {tree : Tree} {path above last : String} {place : Place} {entry : Entry}
    (tidy : Tidy path) (found : tree.lookup path = .ok (place, entry))
    (parts : aboveAndLast path = (above, last)) (some_above : above ≠ "") (named : last ≠ "") :
    tree.has above = true := by
  have some_char := (find_eq_ok_iff.mp (lookup_eq_ok_iff.mp found)).1
  -- a tidy path that ends in a slash has no names
  have two {name : String} {names : List String} (split : Path.names path = names ++ [name]) :
      Path.endsInSlash path = false := by
    cases slash : Path.endsInSlash path with
    | false => rfl
    | true =>
      rw [tidy.slash slash] at split
      exact absurd split.symm (by simp)
  by_cases unnamed : Path.fileName path = ""
  · rw [aboveAndLast_unnamed unnamed] at parts
    obtain ⟨rfl, rfl⟩ := Prod.mk.inj parts
    obtain ⟨slash, same⟩ := Path.names_of_unnamed some_char unnamed
    rw [two (same.trans (Path.names_split named))] at slash
    cases slash
  · rw [aboveAndLast_named unnamed] at parts
    obtain ⟨rfl, rfl⟩ := Prod.mk.inj parts
    obtain ⟨folder, there⟩ := lookup_parent found named (two (Path.names_split named)) some_above
    have noNull : '\x00' ∉ (Path.parent path).toList := fun member =>
      tidy.noNull ((Path.prefix_parent path).subset member)
    unfold has
    rw [checked_eq noNull, there]
    rfl

theorem ensureFoldersWithin_of_folder {tree : Tree} {path : String} {place : Place} (depth : Nat)
    (tidy : Tidy path) (found : tree.lookup path = .ok (place, .folder)) :
    ensureFoldersWithin depth tree path = (tree, none) := by
  have there := ensureFolder_of_folder tidy found
  cases depth with
  | zero => exact there
  | succ depth =>
    rcases parts : aboveAndLast path with ⟨above, last⟩
    have reached := has_above tidy found parts
    have taken : (above = "" || last = "" || tree.has above) = true := by
      simp only [Bool.or_eq_true, decide_eq_true_eq]
      by_cases empty : above = ""
      · exact Or.inl (Or.inl empty)
      · by_cases unnamed : last = ""
        · exact Or.inl (Or.inr unnamed)
        · exact Or.inr (reached empty unnamed)
    simp only [ensureFoldersWithin, parts, taken, if_true, there]

/-! ## Saving -/

theorem writable_of_file {tree : Tree} {path : String} {place : Place} {bytes : List UInt8}
    (found : tree.lookup path = .ok (place, .file bytes)) : tree.writable path = .ok place := by
  obtain ⟨some_char, short, leads⟩ := find_eq_ok_iff.mp (lookup_eq_ok_iff.mp found)
  have plain := leads.plain_of_takesFile trivial
  have led : tree.find .writing path (Purpose.writing.steps path) = .ok (.entry place (.file bytes)) := by
    rw [Purpose.steps_plain _ plain]
    rw [stepsOf_plain plain] at leads
    exact find_eq_ok_iff.mpr ⟨some_char, short, leads.repurpose (by decide) trivial⟩
  unfold writable
  rw [led]
  rfl

/-- A path to save to: it names a file, in a folder that it names too. -/
structure Savable (path : String) : Prop where
  noNull : '\x00' ∉ path.toList
  plain : Path.endsInSlash path = false
  above : Path.parent path ≠ ""

/-- Saving at the path of a file gives that file the bytes of the text. -/
theorem saveText_of_file {tree : Tree} {path : String} {place : Place} {bytes : List UInt8}
    (savable : Savable path) (found : tree.lookup path = .ok (place, .file bytes)) (text : String) :
    tree.saveText path text = (tree.put place (.file (Text.Utf8.encode text)), none) := by
  obtain ⟨noNull, plain, above⟩ := savable
  have led := lookup_eq_ok_iff.mp found
  have named : Path.fileName path ≠ "" := by
    intro unnamed
    have slash := (Path.names_of_unnamed (find_eq_ok_iff.mp led).1 unnamed).1
    rw [plain] at slash
    cases slash
  obtain ⟨folder, there⟩ := lookup_parent found named plain above
  have tidy : Tidy (Path.parent path) :=
    ⟨fun member => noNull ((Path.prefix_parent path).subset member), Path.names_parent_of_slash⟩
  have ready : tree.ensureFolders (Path.parent path) = (tree, none) :=
    ensureFoldersWithin_of_folder _ tidy there
  have goal := writable_of_file found
  have written : tree.writeText path text = .ok (tree.put place (.file (Text.Utf8.encode text))) := by
    unfold writeText writeBytes
    rw [checked_eq noNull, goal]
    rfl
  unfold saveText
  simp only [ready, written]

theorem put_of_makeFolder {tree after : Tree} {path : String} (made : tree.makeFolder path = .ok after) :
    ∃ place, tree.get? place = none ∧ after = tree.put place .folder := by
  unfold makeFolder checked at made
  split at made
  · cases made
  · cases named : tree.find .naming path (Path.names path) with
    | error cause =>
      rw [named] at made
      cases made
    | ok target =>
      rw [named] at made
      cases target with
      | entry => cases made
      | free folder name =>
        cases made
        exact ⟨folder ++ [name], (find_eq_ok_iff.mp named).2.2.target_in, rfl⟩

section Keeping

variable (keeps : Tree → Prop)
  (step : ∀ {tree : Tree} {place : Place}, tree.get? place = none → keeps tree → keeps (tree.put place .folder))

include step

/-- What is kept when a folder is put where nothing is, is kept by making sure of a folder. -/
theorem ensureFolder_keeps {tree : Tree} (start : keeps tree) (path : String) :
    keeps (tree.ensureFolder path).1 := by
  unfold ensureFolder
  split
  · next made =>
    obtain ⟨place, missing, rfl⟩ := put_of_makeFolder made
    exact step missing start
  · exact start
  · exact start

theorem ensureFoldersWithin_keeps (depth : Nat) {tree : Tree} (start : keeps tree) (path : String) :
    keeps (ensureFoldersWithin depth tree path).1 := by
  induction depth generalizing path with
  | zero => exact ensureFolder_keeps keeps step start path
  | succ depth ih =>
    unfold ensureFoldersWithin
    split
    next above last _ =>
    split
    · exact ensureFolder_keeps keeps step start path
    · have made := ih above
      split
      · next after fault ended =>
        rw [ended] at made
        split
        · split
          · exact made
          · exact ensureFolder_keeps keeps step made path
        · exact made
      · next after ended =>
        rw [ended] at made
        split
        · exact made
        · exact ensureFolder_keeps keeps step made path

end Keeping

theorem ensureFolders_grows (tree : Tree) (path : String) : Grows tree (tree.ensureFolders path).1 :=
  ensureFoldersWithin_keeps (Grows tree)
    (fun missing grown => grown.trans (.put (by simp [missing]))) _ (.refl tree) path

/-- A path can be written to if it leads to a file or to a free name. -/
theorem find_of_writable {tree : Tree} {path : String} {place : Place} (goal : tree.writable path = .ok place) :
    Path.endsInSlash path = false ∧
      ((∃ bytes, tree.find .reading path (Path.names path) = .ok (.entry place (.file bytes))) ∨
        ∃ folder name, place = folder ++ [name] ∧
          tree.find .reading path (Path.names path) = .ok (.free folder name)) := by
  unfold writable at goal
  cases led : tree.find .writing path (Purpose.writing.steps path) with
  | error cause =>
    rw [led] at goal
    cases goal
  | ok target =>
    rw [led] at goal
    obtain ⟨some_char, short, leads⟩ := find_eq_ok_iff.mp led
    have taken : target.TakesFile := by
      rcases target with ⟨_, _ | _ | _⟩ | _
      · cases goal
      · trivial
      · cases goal
      · trivial
    have plain := leads.plain_of_takesFile taken
    rw [Purpose.steps_plain _ plain] at leads
    have read : tree.find .reading path (Path.names path) = .ok target :=
      find_eq_ok_iff.mpr ⟨some_char, short, leads.repurpose (by decide) taken⟩
    refine ⟨plain, ?_⟩
    rcases target with ⟨other, _ | bytes | _⟩ | ⟨folder, name⟩
    · cases goal
    · cases goal
      exact .inl ⟨bytes, read⟩
    · cases goal
    · cases goal
      exact .inr ⟨folder, name, rfl, read⟩

theorem file_of_writable {tree : Tree} {path : String} {place : Place}
    (goal : tree.writable path = .ok place) {old : Entry} (there : tree.get? place = some old) :
    ∃ bytes, old = .file bytes := by
  obtain ⟨_, ⟨bytes, led⟩ | ⟨folder, name, rfl, led⟩⟩ := find_of_writable goal
  · have present : tree.get? place = some (.file bytes) := (find_eq_ok_iff.mp led).2.2.target_in
    exact ⟨bytes, Option.some.inj (there.symm.trans present)⟩
  · have missing : tree.get? (folder ++ [name]) = none := (find_eq_ok_iff.mp led).2.2.target_in
    rw [missing] at there
    cases there

theorem put_of_writeBytes {tree after : Tree} {path : String} {bytes : List UInt8}
    (written : tree.writeBytes path bytes = .ok after) :
    '\x00' ∉ path.toList ∧ ∃ place, tree.writable path = .ok place ∧ after = tree.put place (.file bytes) := by
  unfold writeBytes checked at written
  split at written
  · cases written
  · next noNull =>
    refine ⟨by simpa using noNull, ?_⟩
    cases goal : tree.writable path with
    | error cause =>
      rw [goal] at written
      cases written
    | ok place =>
      rw [goal] at written
      cases written
      exact ⟨place, rfl, rfl⟩

/-- Saving makes the folders above, and writes the file unless something is in the way. -/
theorem saveText_cases (tree : Tree) (path text : String) :
    (tree.saveText path text).1 = (tree.ensureFolders (Path.parent path)).1 ∧
        (∃ fault, (tree.saveText path text).2 = some fault) ∨
      ∃ place, (tree.ensureFolders (Path.parent path)).1.writable path = .ok place ∧
        (tree.saveText path text).1 =
          (tree.ensureFolders (Path.parent path)).1.put place (.file (Text.Utf8.encode text)) ∧
        (tree.saveText path text).2 = none ∧ '\x00' ∉ path.toList := by
  unfold saveText
  split
  · next after fault ended => exact .inl ⟨by rw [ended], fault, rfl⟩
  · next after ended =>
    rw [ended]
    split
    · next written saved =>
      obtain ⟨noNull, place, goal, same⟩ := put_of_writeBytes saved
      exact .inr ⟨place, goal, same, rfl, noNull⟩
    · next fault _ => exact .inl ⟨rfl, fault, rfl⟩

theorem saveText_grows (tree : Tree) (path text : String) : Grows tree (tree.saveText path text).1 := by
  have made := ensureFolders_grows tree (Path.parent path)
  rcases saveText_cases tree path text with ⟨same, _⟩ | ⟨place, goal, written, _⟩
  · rw [same]
    exact made
  · rw [written]
    refine made.trans (.put fun old there => ?_)
    obtain ⟨bytes, rfl⟩ := file_of_writable goal there
    exact Or.inr ⟨bytes, text, rfl, rfl⟩

/-- A file that a text is saved to holds that text. -/
theorem lookup_saveText {tree : Tree} {path : String} {place : Place} {bytes : List UInt8}
    (savable : Savable path) (found : tree.lookup path = .ok (place, .file bytes)) (text : String) :
    (tree.saveText path text).1.lookup path = .ok (place, .file (Text.Utf8.encode text)) := by
  have grows := saveText_grows tree path text
  rw [saveText_of_file savable found] at grows ⊢
  obtain ⟨later, there, still⟩ := lookup_grow grows found
  rw [get?_put_self] at there
  cases there
  exact still

/-- A file that holds a text goes on holding one. -/
theorem lookup_grow_text {before after : Tree} (grows : Grows before after) {path text : String}
    {place : Place} (found : before.lookup path = .ok (place, .file (Text.Utf8.encode text))) :
    ∃ later, after.lookup path = .ok (place, .file (Text.Utf8.encode later)) := by
  obtain ⟨bytes, there, still⟩ := lookup_grow grows found
  have present := (find_eq_ok_iff.mp (lookup_eq_ok_iff.mp found)).2.2.target_in
  obtain ⟨entry, again, kept⟩ := grows.kept _ _ present
  rw [there] at again
  cases again
  rcases kept with same | ⟨_, later, _, same⟩
  · cases same
    exact ⟨text, still⟩
  · cases same
    exact ⟨later, still⟩

theorem readBytes_of_lookup {tree : Tree} {path : String} {place : Place} {bytes : List UInt8}
    (noNull : '\x00' ∉ path.toList) (found : tree.lookup path = .ok (place, .file bytes)) :
    tree.readBytes path = .ok bytes := by
  unfold readBytes
  rw [checked_eq noNull, found]
  rfl

theorem lookup_of_byteCount {tree : Tree} {path : String} {size : Nat} (counted : tree.byteCount path = .ok size)
    (some_byte : 0 < size) :
    '\x00' ∉ path.toList ∧ ∃ place bytes, tree.lookup path = .ok (place, .file bytes) := by
  unfold byteCount checked at counted
  split at counted
  · cases counted
  · next noNull =>
    refine ⟨by simpa using noNull, ?_⟩
    cases found : tree.lookup path with
    | error cause =>
      rw [found] at counted
      cases counted
    | ok entry =>
      rw [found] at counted
      rcases entry with ⟨place, _ | bytes | _⟩
      · cases counted
        cases some_byte
      · exact ⟨place, bytes, rfl⟩
      · cases counted
        cases some_byte

end Tree

end Refactory.Workspace
