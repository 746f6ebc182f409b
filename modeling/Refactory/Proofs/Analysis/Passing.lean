import Refactory.Proofs.Analysis.KeptNames
import Refactory.Proofs.Source.Parts

/-! Global names that become parameters.

New code may take a global name of the old code as an argument instead. The check sees this only where the
parameter belongs to a plain function and can be given both by position and by keyword.
-/

set_option autoImplicit false

namespace Refactory.Analysis

open Source

/-! ## Parameters of functions -/

def HasParameter (program : Program) (isAsync : Bool) (kind : ParameterKind) (name : String) : Prop :=
  ∃ function parameters body decorators returns,
    program.Holds (.stmt (.functionDef isAsync function parameters body decorators returns)) ∧
      ∃ typeHint value, Parameter.mk kind name typeHint value ∈ parameters

/-- A parameter of the kind stands for one argument, not for all that are left over. -/
def isSingle : ParameterKind → Bool
  | .positionalOnly | .positional | .keywordOnly => true
  | .restPositional | .restKeyword => false

/-- Some function of the program, plain or asynchronous, is given the name as an argument. -/
def IsArgument (program : Program) (name : String) : Prop :=
  ∃ isAsync kind, isSingle kind = true ∧ HasParameter program isAsync kind name

def nameOfKind? (kind : ParameterKind) : Parameter → Option String
  | .mk found name _ _ => if found = kind then some name else none

theorem mem_filterMap_nameOfKind? {kind : ParameterKind} {parameters : List Parameter} {name : String} :
    name ∈ parameters.filterMap (nameOfKind? kind) ↔
      ∃ typeHint value, Parameter.mk kind name typeHint value ∈ parameters := by
  rw [List.mem_filterMap]
  constructor
  · rintro ⟨⟨found, other, typeHint, value⟩, member, named⟩
    rw [nameOfKind?, Option.ite_none_right_eq_some] at named
    obtain ⟨rfl, same⟩ := named
    cases same
    exact ⟨typeHint, value, member⟩
  · rintro ⟨typeHint, value, member⟩
    exact ⟨_, member, if_pos rfl⟩

def parameterNames (isAsync : Bool) (kind : ParameterKind) : Node → List String
  | .stmt (.functionDef found _ parameters _ _ _) =>
      if found = isAsync then parameters.filterMap (nameOfKind? kind) else []
  | _ => []

theorem mem_parameterNames_iff {program : Program} {isAsync : Bool} {kind : ParameterKind} {name : String} :
    name ∈ program.nodes.flatMap (parameterNames isAsync kind) ↔ HasParameter program isAsync kind name := by
  rw [List.mem_flatMap]
  constructor
  · rintro ⟨node, listed, member⟩
    unfold parameterNames at member
    split at member
    · split at member
      · next same =>
        subst same
        exact ⟨_, _, _, _, _, Program.mem_nodes.mp listed, mem_filterMap_nameOfKind?.mp member⟩
      · cases member
    · cases member
  · rintro ⟨function, parameters, body, decorators, returns, holds, member⟩
    refine ⟨_, Program.mem_nodes.mpr holds, ?_⟩
    rw [parameterNames, if_pos rfl]
    exact mem_filterMap_nameOfKind?.mpr member

instance (program : Program) (isAsync : Bool) (kind : ParameterKind) (name : String) :
    Decidable (HasParameter program isAsync kind name) :=
  decidable_of_iff _ mem_parameterNames_iff

theorem mem_positionalParameters_iff {node : Node} {name : String} :
    name ∈ positionalParameters node ↔ ∃ function parameters body decorators returns,
      node = .stmt (.functionDef false function parameters body decorators returns) ∧
        ∃ typeHint value, Parameter.mk .positional name typeHint value ∈ parameters := by
  rw [mem_positionalParameters]
  fun_cases Node.ownMentions node <;> grind [taken?_eq_some_iff]

theorem takes_iff_hasParameter {program : Program} {name : String} :
    Takes program name ↔ HasParameter program false .positional name := by
  simp only [Takes, mem_positionalParameters_iff, HasParameter]
  constructor
  · rintro ⟨_, holds, function, parameters, body, decorators, returns, rfl, member⟩
    exact ⟨function, parameters, body, decorators, returns, holds, member⟩
  · rintro ⟨function, parameters, body, decorators, returns, holds, member⟩
    exact ⟨_, holds, function, parameters, body, decorators, returns, rfl, member⟩

/-- A parameter binds its name, so that it is no global one. -/
theorem HasParameter.binds {program : Program} {isAsync : Bool} {kind : ParameterKind} {name : String}
    (has : HasParameter program isAsync kind name) : Binds program name := by
  obtain ⟨function, parameters, body, decorators, returns, holds, typeHint, value, member⟩ := has
  refine ⟨.parameter (.mk kind name typeHint value), holds.trans ?_, rfl⟩
  have part : (Parameter.mk kind name typeHint value).outline ∈ parameterOutlines parameters := by
    rw [parameterOutlines_eq_map]
    exact List.mem_map_of_mem member
  have among : (Parameter.mk kind name typeHint value).outline ∈ parameterOutlines parameters ++
      stmtOutlines body ++ exprOutlines decorators ++ optionOutline returns := by
    simp only [List.mem_append, part, true_or]
  exact .inside among .here

/-! ## What the check makes of them -/

/-- Where every lost global name of the old text is an argument of some function, the new text is accepted
exactly if each is one that a plain function can be given both by position and by keyword. The names that
are told of are those that are arguments in other ways only. -/
theorem arguments_accepted_iff {old new : String} {after : Program} (parsed : Program.parse new = .ok after)
    (passed : ∀ name ∈ globalNamesOfText old, name ∉ globalNamesOfText new → IsArgument after name) :
    ((checkScope old new).isAccepted = true ↔ ∀ name ∈ globalNamesOfText old, IsArgument after name →
      HasParameter after false .positional name) ∧
    ∀ names, checkScope old new = .dropped names → ∀ name, name ∈ names ↔
      name ∈ globalNamesOfText old ∧ IsArgument after name ∧
        ¬ HasParameter after false .positional name := by
  have globals : globalNamesOfText new = globalNames after := by
    simp only [globalNamesOfText, parsed]
  -- a lost name is an argument, and an argument is lost as a global name
  have lost {name : String} (listed : name ∈ globalNamesOfText old) :
      ¬ UsesGlobally after name ↔ IsArgument after name := by
    constructor
    · intro unused
      apply passed name listed
      rwa [globals, mem_globalNames]
    · rintro ⟨_, _, _, has⟩ used
      exact used.unbound has.binds
  constructor
  · rw [← Bool.not_eq_false, rejected_iff parsed, not_exists]
    simp only [takes_iff_hasParameter, not_and, Classical.not_not]
    constructor
    · intro kept name listed argument
      exact kept name listed ((lost listed).mpr argument)
    · intro positional name listed unused
      exact positional name listed ((lost listed).mp unused)
  · intro names verdict name
    have told : names = droppedNames (globalNamesOfText old) after := by
      simp only [checkScope, parsed] at verdict
      split at verdict
      · cases verdict
      · cases verdict
        rfl
    rw [told, mem_droppedNames, takes_iff_hasParameter]
    constructor
    · rintro ⟨listed, unused, unseen⟩
      exact ⟨listed, (lost listed).mp unused, unseen⟩
    · rintro ⟨listed, argument, unseen⟩
      exact ⟨listed, (lost listed).mpr argument, unseen⟩

def ratedTotal : String := "def total(price):\n    return price * RATE\n"

def keywordTotal : String := "def total(price, *, RATE):\n    return price * RATE\n"

theorem keyword_rate_rejected :
    HasParameter (programOf keywordTotal) false .keywordOnly "RATE" ∧
      (checkScope ratedTotal keywordTotal).isAccepted = false ∧
      ∀ names, checkScope ratedTotal keywordTotal = .dropped names → "RATE" ∈ names := by
  have oldGlobals : globalNamesOfText ratedTotal = ["RATE"] :=
    (globalNamesOfText_ofList _).trans (by decide +kernel)
  have spelled : Program.parse keywordTotal = _ := parse_ofList _
  have facts : (Program.parse keywordTotal).isOk = true ∧
      HasParameter (programOf keywordTotal) false .keywordOnly "RATE" ∧
      ¬ HasParameter (programOf keywordTotal) false .positional "RATE" := by
    rw [programOf, spelled]
    decide +kernel
  obtain ⟨parsed, keyword, notPositional⟩ := facts
  have argument : IsArgument (programOf keywordTotal) "RATE" := ⟨false, .keywordOnly, rfl, keyword⟩
  have listed : "RATE" ∈ globalNamesOfText ratedTotal := by simp [oldGlobals]
  have passed : ∀ name ∈ globalNamesOfText ratedTotal, name ∉ globalNamesOfText keywordTotal →
      IsArgument (programOf keywordTotal) name := by
    intro name member _
    rw [oldGlobals, List.mem_singleton] at member
    exact member ▸ argument
  obtain ⟨accepted, told⟩ := arguments_accepted_iff (parse_eq_programOf parsed) passed
  refine ⟨keyword, ?_, fun names verdict => ?_⟩
  · rw [← Bool.not_eq_true, accepted]
    exact fun positional => notPositional (positional "RATE" listed argument)
  · exact (told names verdict "RATE").mpr ⟨listed, argument, notPositional⟩

end Refactory.Analysis
