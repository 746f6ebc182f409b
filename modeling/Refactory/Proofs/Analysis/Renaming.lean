import Refactory.Proofs.Analysis.KeptNames
import Refactory.Proofs.Source.Renaming

/-! Renaming what a program binds keeps its global names.

The check of global names compares names as texts. A renaming that tells names apart carries reads and
bindings along together, so the global names of the renamed program are those of the old one, renamed; if
these stay as they are, nothing is lost.
-/

set_option autoImplicit false

namespace Refactory.Analysis

open Source

section Renamed

variable {rename : String → String} {before after : Program}
  (injective : Function.Injective rename) (fixed : ∀ name ∈ builtinNames, rename name = name)
  (renamed : before.RenamedTo rename after)

include injective renamed

theorem mention_renamed_iff {mention : Mention} :
    mention.map rename ∈ after.mentions ↔ mention ∈ before.mentions := by
  rw [renamed.mentions, List.mem_map]
  constructor
  · rintro ⟨other, made, same⟩
    rwa [← Mention.map_injective injective same]
  · intro made
    exact ⟨mention, made, rfl⟩

include fixed

/-- The global names of a renamed program are the old ones, renamed. -/
theorem global_renamed_iff {name : String} :
    Global after name ↔ ∃ old, Global before old ∧ rename old = name := by
  have moved {mention : Mention} : mention.map rename ∈ after.mentions ↔ mention ∈ before.mentions :=
    mention_renamed_iff injective renamed
  -- a name is not brought along exactly if what it is renamed to is not
  have own {old : String} : rename old ∈ builtinNames ↔ old ∈ builtinNames := by
    constructor
    · intro builtin
      rwa [← injective (fixed _ builtin)]
    · intro builtin
      rwa [fixed old builtin]
  constructor
  · rintro ⟨read, unassigned, noParameter, undefined, notBuiltin⟩
    rw [renamed.mentions, List.mem_map] at read
    obtain ⟨mention, made, same⟩ := read
    cases mention <;> cases same
    next old =>
    refine ⟨old, ⟨made, ?_, ?_, ?_, mt own.mpr notBuiltin⟩, rfl⟩
    · exact fun assigned => unassigned (moved.mpr assigned)
    · exact fun parameter => noParameter (moved.mpr parameter)
    · exact fun defined => undefined (moved.mpr defined)
  · rintro ⟨old, ⟨read, unassigned, noParameter, undefined, notBuiltin⟩, rfl⟩
    refine ⟨moved.mpr read, ?_, ?_, ?_, mt own.mp notBuiltin⟩
    · exact fun assigned => unassigned (moved.mp assigned)
    · exact fun parameter => noParameter (moved.mp parameter)
    · exact fun defined => undefined (moved.mp defined)

end Renamed

/-- A new text that only renames what the old one binds, and changes other names as it likes, has the same
global names and is accepted. -/
theorem renaming_accepted {rename : String → String} {old new : String} {before after : Program}
    (parsedOld : Program.parse old = .ok before) (parsedNew : Program.parse new = .ok after)
    (injective : Function.Injective rename) (fixesBuiltins : ∀ name ∈ builtinNames, rename name = name)
    (fixesGlobals : ∀ name ∈ globalNamesOfText old, rename name = name)
    (renamed : before.RenamedTo rename after) :
    globalNamesOfText new = globalNamesOfText old ∧ (checkScope old new).isAccepted = true := by
  have globalsOld : globalNamesOfText old = globalNames before := by
    simp only [globalNamesOfText, parsedOld]
  have globalsNew : globalNamesOfText new = globalNames after := by
    simp only [globalNamesOfText, parsedNew]
  have fixes {name : String} (used : Global before name) : rename name = name := by
    apply fixesGlobals
    rwa [globalsOld, mem_globalNames, usesGlobally_iff]
  have same (name : String) : Global after name ↔ Global before name := by
    rw [global_renamed_iff injective fixesBuiltins renamed]
    constructor
    · rintro ⟨original, used, rfl⟩
      rwa [fixes used]
    · intro used
      exact ⟨name, used, fixes used⟩
  have kept : globalNamesOfText new = globalNamesOfText old := by
    rw [globalsOld, globalsNew, globalNames_eq same]
  refine ⟨kept, ?_⟩
  rw [← Bool.not_eq_false, rejected_iff parsedNew]
  rintro ⟨name, listed, unused, _⟩
  rw [← kept, globalsNew, mem_globalNames] at listed
  exact unused listed

/-! ## A function with other names -/

def pricing (function item sum part : String) : Program := ⟨[
  .functionDef false function [.mk .positional item none none]
    [.assign [.name sum .store]
        (.binary (.attribute (.name item .load) part .load) .mul (.name "RATE" .load)),
      .ret (some (.call (.name "round" .load) [.name sum .load] []))] [] none]⟩

def isPricing (function item sum part : String) : Except SyntaxError Program → Bool
  | .ok ⟨[.functionDef false name [.mk .positional taken none none]
      [.assign [.name assigned .store]
          (.binary (.attribute (.name owner .load) attr .load) .mul (.name factor .load)),
        .ret (some (.call (.name callee .load) [.name argument .load] []))] [] none]⟩ =>
      [name, taken, assigned, owner, attr, factor, callee, argument] =
        [function, item, sum, item, part, "RATE", "round", sum]
  | _ => false

theorem eq_pricing {function item sum part : String} {parsed : Except SyntaxError Program}
    (passed : isPricing function item sum part parsed = true) :
    parsed = .ok (pricing function item sum part) := by
  unfold isPricing at passed
  split at passed
  · simp only [decide_eq_true_eq, List.cons.injEq, and_true] at passed
    obtain ⟨rfl, rfl, rfl, rfl, rfl, rfl, rfl, rfl⟩ := passed
    rfl
  · cases passed

def swap (first second name : String) : String :=
  if name = first then second else if name = second then first else name

theorem swap_injective (first second : String) : Function.Injective (swap first second) := by
  intro name other same
  unfold swap at same
  grind

def exchange (name : String) : String :=
  swap "total" "amount" (swap "price" "entry" (swap "cost" "result" name))

theorem exchange_injective : Function.Injective exchange := by
  intro name other same
  exact swap_injective _ _ (swap_injective _ _ (swap_injective _ _ same))

def totalText : String := "def total(price):\n    cost = price.net * RATE\n    return round(cost)\n"

def amountText : String := "def amount(entry):\n    result = entry.gross * RATE\n    return round(result)\n"

theorem exchanged_names_accepted :
    globalNamesOfText amountText = globalNamesOfText totalText ∧ "RATE" ∈ globalNamesOfText totalText ∧
      (checkScope totalText amountText).isAccepted = true := by
  have trees : isPricing "total" "price" "cost" "net" (Program.parse totalText) = true ∧
      isPricing "amount" "entry" "result" "gross" (Program.parse amountText) = true := by decide +kernel
  have parsedOld := eq_pricing trees.1
  have globals : globalNamesOfText totalText = ["RATE"] := by
    rw [globalNamesOfText, parsedOld]
    decide +kernel
  have kept := renaming_accepted parsedOld (eq_pricing trees.2) exchange_injective (by decide +kernel)
    (by rw [globals]; decide) rfl
  exact ⟨kept.1, globals ▸ List.mem_singleton_self _, kept.2⟩

end Refactory.Analysis
