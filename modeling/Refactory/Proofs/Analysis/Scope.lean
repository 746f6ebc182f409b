import Refactory.Analysis.ScopeCheck
import Refactory.Proofs.Source.Outline

/-! What the check of global names accepts.

The check pools the names of all scopes. A name that the old program binds anywhere, even at the top
level alone, is therefore not one of its global names, and losing it goes unnoticed.
-/

set_option autoImplicit false

namespace Refactory.Analysis

open Source

/-! ## Names of a program -/

def Reads (program : Program) (name : String) : Prop := program.Holds (.expr (.name name .load))

/-- Some construct of the program binds the name, whatever the scope. -/
def Binds (program : Program) (name : String) : Prop :=
  ∃ node, program.Holds node ∧ boundName? node = some name

def Takes (program : Program) (name : String) : Prop :=
  ∃ node, program.Holds node ∧ name ∈ positionalParameters node

/-- The name is read and bound nowhere, and the language does not bring it along. -/
structure UsesGlobally (program : Program) (name : String) : Prop where
  read : Reads program name
  unbound : ¬ Binds program name
  own : name ∉ builtinNames

theorem readName?_eq_some_iff {node : Node} {name : String} :
    readName? node = some name ↔ node = .expr (.name name .load) := by
  constructor
  · intro found
    unfold readName? at found
    split at found
    · cases found
      rfl
    · cases found
  · rintro rfl
    rfl

theorem mem_read_iff {program : Program} {name : String} :
    name ∈ program.nodes.filterMap readName? ↔ Reads program name := by
  rw [List.mem_filterMap]
  constructor
  · rintro ⟨node, listed, found⟩
    rw [readName?_eq_some_iff.mp found] at listed
    exact Program.mem_nodes.mp listed
  · intro read
    exact ⟨_, Program.mem_nodes.mpr read, rfl⟩

theorem mem_bound_iff {program : Program} {name : String} :
    name ∈ program.nodes.filterMap boundName? ↔ Binds program name := by
  simp only [List.mem_filterMap, Program.mem_nodes, Binds]

theorem mem_taken_iff {program : Program} {name : String} :
    name ∈ program.nodes.flatMap positionalParameters ↔ Takes program name := by
  simp only [List.mem_flatMap, Program.mem_nodes, Takes]

instance (program : Program) (name : String) : Decidable (Reads program name) :=
  decidable_of_iff _ mem_read_iff

instance (program : Program) (name : String) : Decidable (Binds program name) :=
  decidable_of_iff _ mem_bound_iff

instance (program : Program) (name : String) : Decidable (Takes program name) :=
  decidable_of_iff _ mem_taken_iff

theorem mem_sortNames {name : String} {names : List String} : name ∈ sortNames names ↔ name ∈ names := by
  rw [sortNames, List.mem_mergeSort, List.mem_eraseDups]

theorem mem_globalNames {program : Program} {name : String} :
    name ∈ globalNames program ↔ UsesGlobally program name := by
  rw [globalNames, mem_sortNames, globalsOf, List.mem_filter, mem_read_iff]
  simp only [Bool.and_eq_true, Bool.not_eq_true', List.contains_eq_mem, decide_eq_false_iff_not,
    mem_bound_iff]
  constructor
  · rintro ⟨read, unbound, own⟩
    exact ⟨read, unbound, own⟩
  · rintro ⟨read, unbound, own⟩
    exact ⟨read, unbound, own⟩

/-! ## Programs of texts -/

def programOf (text : String) : Program := (Program.parse text).toOption.getD ⟨[]⟩

theorem parse_eq_programOf {text : String} (parses : (Program.parse text).isOk = true) :
    Program.parse text = .ok (programOf text) := by
  cases parsed : Program.parse text with
  | ok program => simp only [programOf, parsed, Except.toOption, Option.getD_some]
  | error fault =>
    rw [parsed] at parses
    cases parses

theorem isOk_of_mem_globalNames {text name : String} (used : name ∈ globalNames (programOf text)) :
    (Program.parse text).isOk = true := by
  cases parsed : Program.parse text with
  | ok program => rfl
  | error fault =>
    have bare : programOf text = ⟨[]⟩ := by rw [programOf, parsed]; rfl
    have unused : globalNames ⟨[]⟩ = [] := List.mergeSort_nil
    rw [bare, unused] at used
    cases used

/-- The tree by the characters of the text, which evaluates where the text is long. -/
theorem parse_ofList (chars : List Char) : Program.parse (String.ofList chars) =
    if chars.contains '\x00' then .error ⟨.nullBytes, none⟩ else Program.ofTokens (Token.scan chars) := by
  simp only [Program.parse, String.toList_ofList]

theorem globalNamesOfText_ofList (chars : List Char) :
    globalNamesOfText (String.ofList chars) =
      ((if chars.contains '\x00' then .error ⟨.nullBytes, none⟩
        else Program.ofTokens (Token.scan chars)).toOption.map globalNames).getD [] := by
  rw [← parse_ofList, globalNamesOfText]
  cases Program.parse (String.ofList chars) <;> rfl

/-! ## The check -/

theorem mem_droppedNames {before : List String} {program : Program} {name : String} :
    name ∈ droppedNames before program ↔
      name ∈ before ∧ ¬ UsesGlobally program name ∧ ¬ Takes program name := by
  rw [droppedNames, List.mem_filter]
  simp only [Bool.not_eq_true', List.contains_eq_mem, decide_eq_false_iff_not, List.mem_append,
    mem_globalNames, mem_taken_iff, not_or]

/-- A new program is rejected for a global name of the old text that it neither uses nor takes. -/
theorem rejected_iff {old new : String} {after : Program} (parsed : Program.parse new = .ok after) :
    (checkScope old new).isAccepted = false ↔
      ∃ name ∈ globalNamesOfText old, ¬ UsesGlobally after name ∧ ¬ Takes after name := by
  simp only [checkScope, parsed, ← mem_droppedNames]
  cases droppedNames (globalNamesOfText old) after with
  | nil => simp [ScopeVerdict.isAccepted]
  | cons name names => exact iff_of_true rfl ⟨name, List.mem_cons_self⟩

/-- The loss of a name that the old program reads is noticed only if that program binds it nowhere.
Otherwise, as for a name that it assigns at the top level and reads in a function, the new program is
rejected only for the loss of some other name. -/
theorem loss_rejected_iff {old new : String} {before after : Program} {name : String}
    (parsedOld : Program.parse old = .ok before) (parsedNew : Program.parse new = .ok after)
    (read : Reads before name) (own : name ∉ builtinNames)
    (lost : ¬ Reads after name ∧ ¬ Takes after name) :
    (checkScope old new).isAccepted = false ↔
      ¬ Binds before name ∨ ∃ other, other ≠ name ∧ UsesGlobally before other ∧
        ¬ UsesGlobally after other ∧ ¬ Takes after other := by
  have globals : globalNamesOfText old = globalNames before := by
    simp only [globalNamesOfText, parsedOld]
  rw [rejected_iff parsedNew, globals]
  simp only [mem_globalNames]
  constructor
  · rintro ⟨dropped, used, unused, untaken⟩
    -- a dropped name is bound nowhere, so if it is the lost one, that one is
    by_cases same : dropped = name
    · subst same
      exact Or.inl used.unbound
    · exact Or.inr ⟨dropped, same, used, unused, untaken⟩
  · rintro (unbound | ⟨other, _, used, unused, untaken⟩)
    · exact ⟨name, ⟨read, unbound, own⟩, fun used => lost.1 used.read, lost.2⟩
    · exact ⟨other, used, unused, untaken⟩

def taxedTotal : String :=
  "TAX_RATE = 0.15\n\ndef calculate_total(price):\n    return price + (price * TAX_RATE)\n"

def inlinedTotal : String :=
  "def calculate_total(price):\n    return price + (price * 0.15)\n"

theorem inlined_rate_accepted :
    Reads (programOf taxedTotal) "TAX_RATE" ∧ Binds (programOf taxedTotal) "TAX_RATE" ∧
      ¬ Reads (programOf inlinedTotal) "TAX_RATE" ∧ ¬ Takes (programOf inlinedTotal) "TAX_RATE" ∧
      (checkScope taxedTotal inlinedTotal).isAccepted ≠ false := by
  have beforeFacts : (Program.parse taxedTotal).isOk ∧ Reads (programOf taxedTotal) "TAX_RATE" ∧
      Binds (programOf taxedTotal) "TAX_RATE" ∧ globalNames (programOf taxedTotal) = [] := by
    decide +kernel
  have afterFacts : (Program.parse inlinedTotal).isOk ∧ ¬ Reads (programOf inlinedTotal) "TAX_RATE" ∧
      ¬ Takes (programOf inlinedTotal) "TAX_RATE" := by
    decide +kernel
  obtain ⟨parsedOld, read, bound, globals⟩ := beforeFacts
  obtain ⟨parsedNew, lost⟩ := afterFacts
  refine ⟨read, bound, lost.1, lost.2, fun rejected => ?_⟩
  have cause := (loss_rejected_iff (parse_eq_programOf parsedOld) (parse_eq_programOf parsedNew) read
    (by decide +kernel) lost).mp rejected
  rcases cause with unbound | ⟨other, _, used, _⟩
  · exact unbound bound
  · rw [← mem_globalNames, globals] at used
    cases used

end Refactory.Analysis
