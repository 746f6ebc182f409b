import Refactory.Proofs.Analysis.KeptNames
import Refactory.Proofs.Source.Bindings
import Refactory.Proofs.Source.TidyPrograms

/-! Names that a program binds itself, and yet are told as global.

The listing of global names leaves out what the program binds, but does not look for every way of binding:
the names of asynchronous functions, of handled errors and of captures in patterns are passed over.
-/

set_option autoImplicit false

namespace Refactory.Analysis

open Source

/-- The ways of binding that the listing does not look for. -/
def isOverlooked : BindingForm → Bool
  | .asyncFunction | .handler | .capture => true
  | _ => false

theorem isOverlooked_iff {form : BindingForm} :
    isOverlooked form = true ↔ form = .asyncFunction ∨ form = .handler ∨ form = .capture := by
  cases form <;> decide

theorem isOverlooked_of_hasTargets {form : BindingForm} :
    form.hasTargets = true → isOverlooked form = false := by
  cases form <;> decide

/-- A construct without targets that is looked for carries the name that it binds. -/
theorem boundName?_of_binding {node : Node} {form : BindingForm} {name : String}
    (bound : (form, name) ∈ node.bindings) (bare : form.hasTargets = false)
    (seen : isOverlooked form = false) : boundName? node = some name := by
  fun_cases Node.bindings node <;> grind [boundName?, BindingForm.hasTargets, isOverlooked, Node.bindings]

theorem binds_iff_bindsAs {program : Program} {name : String} (tidy : program.outline.Tidy) :
    Binds program name ↔ ∃ form, isOverlooked form = false ∧ program.BindsAs form name := by
  constructor
  · rintro ⟨node, holds, found⟩
    unfold boundName? at found
    split at found
    · cases found
      obtain ⟨form, targeted, bound⟩ := (Program.stored_iff tidy).mp holds
      exact ⟨form, isOverlooked_of_hasTargets targeted, bound⟩
    · cases found
      exact ⟨.parameter, rfl, _, holds, List.mem_singleton_self _⟩
    · cases found
      exact ⟨.function, rfl, _, holds, List.mem_singleton_self _⟩
    · cases found
      exact ⟨.classBody, rfl, _, holds, List.mem_singleton_self _⟩
    · cases found
  · rintro ⟨form, seen, node, holds, bound⟩
    cases bare : form.hasTargets with
    | true =>
      have stored := (Program.stored_iff tidy).mpr ⟨form, bare, node, holds, bound⟩
      exact ⟨_, stored, rfl⟩
    | false => exact ⟨node, holds, boundName?_of_binding bound bare seen⟩

/-- A name is told as global exactly if it is read, the language does not bring it along, and all ways in
which the program binds it are overlooked: as the name of an asynchronous function, of a handled error or of
a capture. -/
theorem global_iff_bindings_overlooked {text name : String} {program : Program}
    (parsed : Program.parse text = .ok program) :
    name ∈ globalNamesOfText text ↔ Reads program name ∧ name ∉ builtinNames ∧
      ∀ form, program.BindsAs form name → form = .asyncFunction ∨ form = .handler ∨ form = .capture := by
  have globals : globalNamesOfText text = globalNames program := by
    simp only [globalNamesOfText, parsed]
  have bound : Binds program name ↔ ∃ form, isOverlooked form = false ∧ program.BindsAs form name :=
    binds_iff_bindsAs (Program.parse_tidy parsed)
  rw [globals, mem_globalNames]
  constructor
  · rintro ⟨read, unbound, own⟩
    refine ⟨read, own, fun form binds => isOverlooked_iff.mp ?_⟩
    cases seen : isOverlooked form with
    | true => rfl
    | false => exact absurd (bound.mpr ⟨form, seen, binds⟩) unbound
  · rintro ⟨read, own, overlooked⟩
    refine ⟨read, fun binds => ?_, own⟩
    obtain ⟨form, seen, binds⟩ := bound.mp binds
    rw [isOverlooked_iff.mpr (overlooked form binds)] at seen
    cases seen

def polling : String :=
  "async def poll(box):\n try: poll(box)\n except OSError as no: no\n match box:\n  case [one, *more]: one, more\n"

def pollingNames : List (BindingForm × String) :=
  [(.asyncFunction, "poll"), (.handler, "no"), (.capture, "one"), (.capture, "more")]

theorem polling_names_told :
    ((programOf polling).BindsAs .asyncFunction "poll" ∧ "poll" ∈ globalNamesOfText polling) ∧
      ((programOf polling).BindsAs .handler "no" ∧ "no" ∈ globalNamesOfText polling) ∧
      ((programOf polling).BindsAs .capture "one" ∧ "one" ∈ globalNamesOfText polling) ∧
      ((programOf polling).BindsAs .capture "more" ∧ "more" ∈ globalNamesOfText polling) := by
  have spelled : Program.parse polling = _ := parse_ofList _
  have facts : (Program.parse polling).isOk = true ∧
      (∀ entry ∈ pollingNames, (programOf polling).BindsAs entry.1 entry.2 ∧
        Reads (programOf polling) entry.2 ∧ entry.2 ∉ builtinNames) ∧
      ∀ entry ∈ (programOf polling).bindings, entry.2 ∈ pollingNames.map Prod.snd →
        entry.1 = .asyncFunction ∨ entry.1 = .handler ∨ entry.1 = .capture := by
    rw [programOf, spelled]
    decide +kernel
  obtain ⟨parsed, bound, ways⟩ := facts
  have told (form : BindingForm) (name : String) (member : (form, name) ∈ pollingNames) :
      (programOf polling).BindsAs form name ∧ name ∈ globalNamesOfText polling := by
    obtain ⟨binds, read, own⟩ := bound _ member
    refine ⟨binds, (global_iff_bindings_overlooked (parse_eq_programOf parsed)).mpr ⟨read, own, ?_⟩⟩
    intro way other
    have named : name ∈ pollingNames.map Prod.snd := List.mem_map_of_mem member
    exact ways (way, name) (Program.mem_bindings.mpr other) named
  exact ⟨told _ _ (by decide), told _ _ (by decide), told _ _ (by decide), told _ _ (by decide)⟩

end Refactory.Analysis
