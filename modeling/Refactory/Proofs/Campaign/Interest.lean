import Refactory.Proofs.Analysis.Complexity
import Refactory.Proofs.Analysis.Unmeasured
import Refactory.Proofs.Campaign.Saved
import Refactory.Proofs.Campaign.Single

/-! The files that the single-pass campaign takes for targets.

A report is searched for the first digit of a complexity. Names are written with their quotes escaped, so what is
looked for is found at a complexity only: a file passes if no complexity in its report starts with one or two. This
is not the same as having a critical function.
-/

set_option autoImplicit false

namespace Refactory.Campaign.Single

open Workspace Analysis Source

/-! ## Looking for a complexity -/

def keyChars : List Char := ['c', 'o', 'm', 'p', 'l', 'e', 'x', 'i', 't', 'y']

/-- What a report is searched for: the key, and a digit after it. -/
def sought (digit : Char) : List Char := '"' :: (keyChars ++ ['"', ':', ' ', digit])

section Numeral

variable {digit : Char} (numeral : digit.isDigit = true)

include numeral

/-- Any digit can stand for another one, where only the marks are looked at. -/
theorem not_mem_sought {mark : Char} (other : mark.isDigit = false) (free : mark ∉ sought '0') :
    mark ∉ sought digit := by
  have parts (last : Char) : sought last = '"' :: (keyChars ++ ['"', ':', ' ']) ++ [last] := by
    simp [sought]
  rw [parts, List.mem_append, not_or] at free ⊢
  refine ⟨free.1, fun same => ?_⟩
  rw [List.mem_singleton.mp same, numeral] at other
  cases other

theorem sought_inner : Json.IsInner (sought digit) where
  opens := ⟨'"', keyChars ++ ['"', ':', ' ', digit], rfl, by decide⟩
  noComma := not_mem_sought numeral (by decide) (by decide)
  noBreak := not_mem_sought numeral (by decide) (by decide)

theorem sought_infix_enclosed_iff {opening closing : Char} (plain : opening.isDigit = false ∧ closing.isDigit = false)
    (free : opening ∉ sought '0' ∧ closing ∉ sought '0') (level : Nat) (items : List (List Char)) :
    sought digit <:+: Json.enclosed (.lines 2) level opening closing items ↔ ∃ item ∈ items, sought digit <:+: item :=
  (sought_inner numeral).infix_enclosed_iff (not_mem_sought numeral plain.1 free.1)
    (not_mem_sought numeral plain.2 free.2) 2 level items

end Numeral

/-- It is in no entry with a text, whatever that text is, if the last letter of its key is not in the other key. -/
theorem not_infix_text_entry (digit : Char) {key : List Char} (free : 'y' ∉ key) (text : String) :
    ¬ sought digit <:+: key ++ Json.string text := by
  intro found
  -- the end of its key would be inside of the text, where a quote can only follow a backslash
  have ending : ['y', '"', ':'] <:+: sought digit :=
    ⟨['"', 'c', 'o', 'm', 'p', 'l', 'e', 'x', 'i', 't'], [' ', digit], rfl⟩
  have inside := (Text.infix_append_of_not_mem free _ _).mp (ending.trans found)
  exact Json.not_infix_string ':' text (by decide) inside

/-- In the entry of a number it is found exactly if the number starts with the digit. -/
theorem infix_number_entry_iff (digit : Char) {digits : List Char} (free : '"' ∉ digits) :
    sought digit <:+: '"' :: (keyChars ++ '"' :: ':' :: ' ' :: digits) ↔ [digit] <+: digits := by
  -- where both begin together they go on together up to the number
  have aligned : sought digit <+: '"' :: (keyChars ++ '"' :: ':' :: ' ' :: digits) ↔ [digit] <+: digits := by
    simp only [sought, List.cons_prefix_cons, true_and, List.prefix_append_right_inj]
  rw [List.infix_cons_iff, aligned]
  -- elsewhere it could only begin at the other quote, which is followed by a colon
  apply or_iff_left
  intro later
  have inner := (Text.infix_append_of_not_mem (by decide) _ _).mp later
  rcases List.infix_cons_iff.mp inner with begins | after
  · exact absurd (List.cons_prefix_cons.mp (List.cons_prefix_cons.mp begins).2).1 (by decide)
  · have quoted : '"' ∈ ':' :: ' ' :: digits := after.subset List.mem_cons_self
    simp [free] at quoted

theorem number_nat (value : Nat) : Json.number (.int value) = Nat.toDigits 10 value := by
  rw [Json.number_int]
  simp [Json.signChars]

theorem infix_value_iff {digit : Char} (numeral : digit.isDigit = true) (function : Measured) :
    sought digit <:+: Json.chars (.lines 2) 1 function.value ↔
      [digit] <+: Nat.toDigits 10 function.complexity := by
  -- three entries, each on a line of its own
  have entries : Json.chars (.lines 2) 1 function.value = Json.enclosed (.lines 2) 1 '\x7b' '\x7d'
      [['"', 'n', 'a', 'm', 'e', '"', ':', ' '] ++ Json.string function.name,
        '"' :: (keyChars ++ '"' :: ':' :: ' ' :: Json.number (.int function.complexity)),
        ['"', 'g', 'r', 'a', 'd', 'e', '"', ':', ' '] ++ Json.string function.grade] := rfl
  have unquoted : '"' ∉ Nat.toDigits 10 function.complexity := by
    have free := Text.Unquoted.number function.complexity
    rwa [Text.Unquoted, Nat.toString_eq_repr, Nat.toList_repr] at free
  have name : ¬ sought digit <:+: ['"', 'n', 'a', 'm', 'e', '"', ':', ' '] ++ Json.string function.name :=
    not_infix_text_entry digit (by decide) function.name
  have grade : ¬ sought digit <:+: ['"', 'g', 'r', 'a', 'd', 'e', '"', ':', ' '] ++ Json.string function.grade :=
    not_infix_text_entry digit (by decide) function.grade
  rw [entries, sought_infix_enclosed_iff numeral (by decide) (by decide), number_nat]
  simp only [List.mem_cons, List.not_mem_nil, or_false, exists_eq_or_imp, exists_eq_left,
    infix_number_entry_iff digit unquoted, name, grade, false_or]

/-- In a report it is found exactly if some complexity starts with the digit. -/
theorem infix_report_iff {digit : Char} (numeral : digit.isDigit = true) (functions : List Measured) :
    sought digit <:+: Json.chars (.lines 2) 0 (.list (functions.map Measured.value)) ↔
      ∃ function ∈ functions, [digit] <+: Nat.toDigits 10 function.complexity := by
  rw [Json.chars_list, Json.itemChars_eq_map, sought_infix_enclosed_iff numeral (by decide) (by decide)]
  constructor
  · rintro ⟨item, listed, found⟩
    obtain ⟨value, valued, rfl⟩ := List.mem_map.mp listed
    obtain ⟨function, member, rfl⟩ := List.mem_map.mp valued
    exact ⟨function, member, (infix_value_iff numeral function).mp found⟩
  · rintro ⟨function, member, begins⟩
    exact ⟨_, List.mem_map_of_mem (List.mem_map_of_mem member), (infix_value_iff numeral function).mpr begins⟩

/-! ## Interesting reports -/

/-- The decimal notation of a number starts with one or two. -/
def StartsLow (number : Nat) : Prop :=
  Text.startsWith (toString number) "1" = true ∨ Text.startsWith (toString number) "2" = true

instance (number : Nat) : Decidable (StartsLow number) :=
  inferInstanceAs (Decidable (_ ∨ _))

theorem startsWith_iff (number : Nat) (digit : Char) :
    Text.startsWith (toString number) (String.ofList [digit]) = true ↔ [digit] <+: Nat.toDigits 10 number := by
  rw [Text.startsWith, List.isPrefixOf_iff_prefix, String.toList_ofList, Nat.toString_eq_repr, Nat.toList_repr]

theorem startsLow_iff (number : Nat) :
    StartsLow number ↔ ['1'] <+: Nat.toDigits 10 number ∨ ['2'] <+: Nat.toDigits 10 number := by
  rw [← startsWith_iff, ← startsWith_iff]
  rfl

theorem isInteresting_iff (report : String) :
    isInteresting report = true ↔ ¬ sought '1' <:+: report.toList ∧ ¬ sought '2' <:+: report.toList := by
  have one : "\"complexity\": 1".toList = sought '1' := by decide
  have two : "\"complexity\": 2".toList = sought '2' := by decide
  rw [isInteresting, Bool.and_eq_true, Bool.not_eq_true', Bool.not_eq_true', ← Bool.not_eq_true, ← Bool.not_eq_true,
    Text.contains_iff, Text.contains_iff, one, two]

/-- A report is interesting exactly if none of its complexities starts with one or two. -/
theorem isInteresting_render_iff (functions : List Measured) :
    isInteresting (Json.render (.lines 2) (.list (functions.map Measured.value))) = true ↔
      ∀ function ∈ functions, ¬ StartsLow function.complexity := by
  rw [isInteresting_iff, Json.render, String.toList_ofList, infix_report_iff (by decide), infix_report_iff (by decide)]
  simp only [startsLow_iff]
  constructor
  · rintro ⟨noOne, noTwo⟩ function member (one | two)
    · exact noOne ⟨function, member, one⟩
    · exact noTwo ⟨function, member, two⟩
  · intro none_low
    constructor
    · rintro ⟨function, member, one⟩
      exact none_low function member (.inl one)
    · rintro ⟨function, member, two⟩
      exact none_low function member (.inr two)

theorem isInteresting_of_unkeyed {report : String} (unkeyed : Text.Unkeyed report) : isInteresting report = true := by
  have absent (digit : Char) : ¬ sought digit <:+: report.toList := by
    intro found
    have keyed : ['"', ':'] <:+: sought digit := ⟨'"' :: keyChars, [' ', digit], rfl⟩
    exact unkeyed (keyed.trans found)
  exact (isInteresting_iff report).mpr ⟨absent '1', absent '2'⟩

theorem describeComplexity_of_program {tree : Tree} {path text : String} {program : Program}
    (read : tree.readText path = .ok text) (parsed : Program.parse text = .ok program) :
    describeComplexity tree path =
      Json.render (.lines 2) (.list ((Measured.ofProgram program).map Measured.value)) := by
  unfold describeComplexity
  rw [measureFile_of_program read parsed]
  rfl

/-- The search for a digit finds the complexities that start with it and nothing else, whatever the names of the
functions are; so a file that holds a program passes exactly if none of the listed complexities starts with one or
two. -/
theorem interesting_iff_none_starts_low :
    (∀ functions : List Measured,
      isInteresting (Json.render (.lines 2) (.list (functions.map Measured.value))) = true ↔
        ∀ function ∈ functions, ¬ Text.startsWith (toString function.complexity) "1" = true ∧
          ¬ Text.startsWith (toString function.complexity) "2" = true) ∧
    ∀ {tree : Tree} {path text : String} {program : Program},
      tree.readText path = .ok text → Program.parse text = .ok program →
      (isInteresting (describeComplexity tree path) = true ↔
        ∀ function ∈ Measured.ofProgram program, ¬ Text.startsWith (toString function.complexity) "1" = true ∧
          ¬ Text.startsWith (toString function.complexity) "2" = true) := by
  have general (functions : List Measured) :
      isInteresting (Json.render (.lines 2) (.list (functions.map Measured.value))) = true ↔
        ∀ function ∈ functions, ¬ Text.startsWith (toString function.complexity) "1" = true ∧
          ¬ Text.startsWith (toString function.complexity) "2" = true := by
    rw [isInteresting_render_iff]
    simp only [StartsLow, not_or]
  constructor
  · exact general
  · intro tree path text program read parsed
    rw [describeComplexity_of_program read parsed]
    exact general (Measured.ofProgram program)

def keyed : String := "def complexity(a):\n return a or a or a\n"

def keyedTree : Tree := Tree.empty.put (Path.home ++ ["keyed.py"]) (.file (Text.Utf8.encode keyed))

theorem keyed_function_interesting :
    isInteresting (describeComplexity keyedTree "keyed.py") = true ∧
      isInteresting (Json.render (.lines 2) (.list ([⟨"\"complexity\": 1", 3⟩].map Measured.value))) = true ∧
      ¬ isInteresting (Json.render (.lines 2) (.list ([⟨"f", 3⟩, ⟨"g", 21⟩].map Measured.value))) = true := by
  have read : keyedTree.readText "keyed.py" = .ok keyed :=
    (Tree.readText_put (by decide) rfl (by decide +kernel)).2
  have measured : (Program.parse keyed).isOk = true ∧
      Measured.ofProgram (programOf keyed) = [⟨"complexity", 3⟩] := by
    decide +kernel
  rw [interesting_iff_none_starts_low.2 read (parse_eq_programOf measured.1), measured.2,
    interesting_iff_none_starts_low.1, interesting_iff_none_starts_low.1]
  decide

/-! ## The queue -/

def functionsIn? (tree : Tree) (path : String) : Option (List Measured) :=
  match tree.readText path with
  | .error _ => none
  | .ok text => (Program.parse text).toOption.map Measured.ofProgram

/-- The analysis finds a critical function in the file at a path. -/
def FindsCritical (tree : Tree) (path : String) : Prop :=
  ∃ functions, functionsIn? tree path = some functions ∧ ∃ function ∈ functions, 10 < function.complexity

section Queue

variable {tree : Tree} {path : String}

theorem program_of_functionsIn {functions : List Measured} (found : functionsIn? tree path = some functions) :
    ∃ text program, tree.readText path = .ok text ∧ Program.parse text = .ok program ∧
      Measured.ofProgram program = functions := by
  unfold functionsIn? at found
  split at found
  · cases found
  · next text read =>
    obtain ⟨program, parsed, same⟩ := Option.map_eq_some_iff.mp found
    exact ⟨text, program, read, eq_ok_of_toOption parsed, same⟩

theorem failed_of_functionsIn (missing : functionsIn? tree path = none) :
    ∃ fault, measureFile tree path = .error fault := by
  unfold functionsIn? at missing
  split at missing
  · next fault read => exact ⟨_, measureFile_of_unreadable read⟩
  · next text read =>
    cases parsed : Program.parse text with
    | error error => exact ⟨_, measureFile_of_malformed read parsed⟩
    | ok program =>
      rw [parsed] at missing
      cases missing

theorem isInteresting_of_functionsIn {functions : List Measured} (found : functionsIn? tree path = some functions) :
    isInteresting (describeComplexity tree path) = true ↔ ∀ function ∈ functions, ¬ StartsLow function.complexity := by
  obtain ⟨text, program, read, parsed, rfl⟩ := program_of_functionsIn found
  rw [describeComplexity_of_program read parsed, isInteresting_render_iff]

theorem byteCount_of_isLarge (large : isLarge tree path = true) :
    ∃ size, tree.byteCount path = .ok size ∧ leastSize ≤ size := by
  unfold isLarge at large
  split at large
  · next size counted => exact ⟨size, counted, of_decide_eq_true large⟩
  · cases large

theorem isInteresting_of_unmeasured (large : isLarge tree path = true) (missing : functionsIn? tree path = none) :
    isInteresting (describeComplexity tree path) = true := by
  obtain ⟨size, counted, enough⟩ := byteCount_of_isLarge large
  obtain ⟨fault, failed⟩ := failed_of_functionsIn missing
  exact isInteresting_of_unkeyed (account_unkeyed counted (Nat.lt_of_lt_of_le (by decide) enough) failed)

theorem startsLow_iff_of_lt : ∀ complexity < 11,
    (StartsLow complexity ↔ complexity = 1 ∨ complexity = 2 ∨ complexity = 10) := by
  decide

/-- Of the files that are measured, those are taken whose account is interesting. -/
theorem mem_scanFiles_iff {files : List String} (measured : path ∈ (files.filter (isLarge tree)).take scanLimit) :
    path ∈ scanFiles tree files ↔ isInteresting (describeComplexity tree path) = true := by
  rw [scanFiles, List.mem_filter]
  exact and_iff_right measured

/-- A file that is measured is taken exactly if it holds no program, or one in which no complexity starts with one or
two. -/
theorem queued_iff {files : List String} (measured : path ∈ (files.filter (isLarge tree)).take scanLimit) :
    path ∈ scanFiles tree files ↔
      ∀ functions, functionsIn? tree path = some functions → ∀ function ∈ functions, ¬ StartsLow function.complexity := by
  have large := (List.mem_filter.mp (List.mem_of_mem_take measured)).2
  rw [mem_scanFiles_iff measured]
  cases found : functionsIn? tree path with
  | none =>
    apply iff_of_true (isInteresting_of_unmeasured large found)
    rintro functions ⟨⟩
  | some functions =>
    rw [isInteresting_of_functionsIn found]
    constructor
    · rintro none_low _ ⟨⟩
      exact none_low
    · exact fun none_low => none_low functions rfl

theorem startsLow_of_le {functions : List Measured} (uncritical : ∀ function ∈ functions, function.complexity ≤ 10) :
    (∃ function ∈ functions, StartsLow function.complexity) ↔ ∃ function ∈ functions,
      function.complexity = 1 ∨ function.complexity = 2 ∨ function.complexity = 10 := by
  constructor
  · rintro ⟨function, member, low⟩
    exact ⟨function, member, (startsLow_iff_of_lt _ (Nat.lt_succ_of_le (uncritical function member))).mp low⟩
  · rintro ⟨function, member, value⟩
    exact ⟨function, member, (startsLow_iff_of_lt _ (Nat.lt_succ_of_le (uncritical function member))).mpr value⟩

/-- The two criteria agree on some functions if one is critical and none starts with one or two, or if none is
critical and one starts so. -/
theorem agree_iff (functions : List Measured) :
    ((∀ function ∈ functions, ¬ StartsLow function.complexity) ↔ ∃ function ∈ functions, 10 < function.complexity) ↔
      (∃ function ∈ functions, 10 < function.complexity) ∧ (∀ function ∈ functions, ¬ StartsLow function.complexity) ∨
      (∀ function ∈ functions, function.complexity ≤ 10) ∧ ∃ function ∈ functions,
        function.complexity = 1 ∨ function.complexity = 2 ∨ function.complexity = 10 := by
  by_cases critical : ∃ function ∈ functions, 10 < function.complexity
  · have not_all : ¬ ∀ function ∈ functions, function.complexity ≤ 10 := by
      obtain ⟨function, member, above⟩ := critical
      exact fun all => Nat.not_le_of_lt above (all function member)
    simp only [critical, iff_true, true_and, not_all, false_and, or_false]
  · have uncritical : ∀ function ∈ functions, function.complexity ≤ 10 :=
      fun function member => Nat.not_lt.mp fun above => critical ⟨function, member, above⟩
    rw [← startsLow_of_le uncritical]
    simp only [critical, iff_false, false_and, false_or, Classical.not_forall, Classical.not_not, exists_prop]
    exact (and_iff_right uncritical).symm

end Queue

/-- A measured file is queued as it should be, for a critical function in it, exactly if it holds a program whose
complexities do not deceive the search: one of them is above ten and none starts with one or two, or none is above
ten and one of them is one, two or ten. The campaign tells of the queue and works on the first file in it. -/
theorem queued_for_critical_iff {tree : Tree} {files : List String} {path : String}
    (measured : path ∈ (files.filter (isLarge tree)).take scanLimit) :
    ((path ∈ scanFiles tree files ↔ FindsCritical tree path) ↔
      ∃ functions, functionsIn? tree path = some functions ∧
        ((∃ function ∈ functions, 10 < function.complexity) ∧
            (∀ function ∈ functions, ¬ StartsLow function.complexity) ∨
          (∀ function ∈ functions, function.complexity ≤ 10) ∧ ∃ function ∈ functions,
            function.complexity = 1 ∨ function.complexity = 2 ∨ function.complexity = 10)) ∧
    ∀ {world copy : World}, Copied opening world copy → copy.tree = tree → sourceFiles tree repositoryFolder = files →
      (scanFiles tree files = [] → perform campaign world = (.ok (), copy.note (surveyLines tree ++
        [.line "No high-complexity files found in the scan limit. Try increasing scan_limit."]))) ∧
      ∀ target others, scanFiles tree files = target :: others →
        perform campaign world = perform (treat (ImportGraph.ofFolder tree repositoryFolder) target)
          (copy.note (surveyLines tree)) := by
  constructor
  · rw [queued_iff measured, FindsCritical]
    cases found : functionsIn? tree path with
    | none =>
      -- such a file is queued, and nothing is found in it
      simp only [reduceCtorEq, false_implies, implies_true, false_and, exists_false, iff_false, not_true_eq_false]
    | some functions =>
      simp only [Option.some.injEq, forall_eq', exists_eq_left', agree_iff]
  · rintro world copy copied rfl rfl
    rw [perform_campaign copied]
    constructor
    · intro none_queued
      rw [target?, none_queued, ← World.note_note]
      exact perform_announce ..
    · intro target others queued
      rw [target?, queued]
      rfl

def branchingChars : List Char :=
  "def pick(a):\n return a or a or a or a or a or a or a or a or a or a or a\n# ".toList ++ List.replicate 250 '🚀'

def branchingScript : Script := { Script.empty with
  clone := [("pick.py", .file (branchingChars.flatMap String.utf8EncodeChar))] }

def branchingPath : String := "temp_repo/pick.py"

def branchingCopy : World :=
  (perform (do announce opening; cloneRepository repositoryAddress repositoryFolder)
    (World.start Tree.empty branchingScript)).2

theorem branchingCopy_holds :
    (perform (do announce opening; cloneRepository repositoryAddress repositoryFolder)
        (World.start Tree.empty branchingScript)).1.toOption = some repositoryFolder ∧
      sourceFiles branchingCopy.tree repositoryFolder = [branchingPath] ∧
      isLarge branchingCopy.tree branchingPath = true ∧
      (branchingCopy.tree.readBytes branchingPath).toOption = some (branchingChars.flatMap String.utf8EncodeChar) ∧
      (Text.Utf8.decodeFrom 0 ⟨0, [], []⟩ (branchingChars.flatMap String.utf8EncodeChar) []).toOption =
        some branchingChars ∧
      Text.unifyLineEnds branchingChars = branchingChars ∧
      ((if branchingChars.contains '\x00' then .error ⟨.nullBytes, none⟩
        else Program.ofTokens (Token.scan branchingChars)).toOption.map Measured.ofProgram) = some [⟨"pick", 11⟩] := by
  decide +kernel

theorem branchingCopy_copied : Copied opening (World.start Tree.empty branchingScript) branchingCopy :=
  Prod.ext (eq_ok_of_toOption branchingCopy_holds.1) rfl

theorem branchingCopy_measured : functionsIn? branchingCopy.tree branchingPath = some [⟨"pick", 11⟩] := by
  obtain ⟨_, _, _, found, spelled, kept, measured⟩ := branchingCopy_holds
  have read := Guarded.readText_of_bytes (eq_ok_of_toOption found) (eq_ok_of_toOption spelled)
  rw [kept] at read
  rw [functionsIn?, read]
  exact (congrArg (fun outcome => outcome.toOption.map Measured.ofProgram)
    (parse_ofList branchingChars)).trans measured

theorem branching_file_passed_over :
    Copied opening (World.start Tree.empty branchingScript) branchingCopy ∧
      FindsCritical branchingCopy.tree branchingPath ∧
      branchingPath ∉ scanFiles branchingCopy.tree (sourceFiles branchingCopy.tree repositoryFolder) ∧
      perform campaign (World.start Tree.empty branchingScript) =
        (.ok (), branchingCopy.note (surveyLines branchingCopy.tree ++
          [.line "No high-complexity files found in the scan limit. Try increasing scan_limit."])) := by
  obtain ⟨_, listed, large, _⟩ := branchingCopy_holds
  have critical : FindsCritical branchingCopy.tree branchingPath :=
    ⟨_, branchingCopy_measured, _, List.mem_singleton_self _, by decide⟩
  have measured : ((sourceFiles branchingCopy.tree repositoryFolder).filter (isLarge branchingCopy.tree)).take
      scanLimit = [branchingPath] := by
    rw [listed, List.filter_cons_of_pos large]
    rfl
  obtain ⟨queue, run⟩ := queued_for_critical_iff (measured ▸ List.mem_singleton_self branchingPath)
  have unqueued : branchingPath ∉ scanFiles branchingCopy.tree (sourceFiles branchingCopy.tree repositoryFolder) := by
    intro queued
    -- as both hold, the complexities would not deceive the search
    obtain ⟨functions, found, fair⟩ := queue.mp (iff_of_true queued critical)
    cases Option.some.inj (branchingCopy_measured.symm.trans found)
    exact absurd fair (by decide)
  have none_queued : scanFiles branchingCopy.tree (sourceFiles branchingCopy.tree repositoryFolder) = [] := by
    apply List.eq_nil_iff_forall_not_mem.mpr
    intro path queued
    have only := (List.mem_filter.mp queued).1
    rw [measured, List.mem_singleton] at only
    exact unqueued (only ▸ queued)
  exact ⟨branchingCopy_copied, critical, unqueued, (run branchingCopy_copied rfl rfl).1 none_queued⟩

end Refactory.Campaign.Single
