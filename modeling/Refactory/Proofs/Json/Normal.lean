import Refactory.Json.Printer
import Refactory.Proofs.Table

/-! What is left of a value in a document.

The keys of a dictionary become texts. Where two keys become the same text, one entry is left: it
stands where the first stood and holds the value of the last. Nothing else changes, so a value whose
keys are texts already is its own normal form.
-/

set_option autoImplicit false

namespace Refactory.Json

/-! ## Dictionaries whose keys are texts -/

def named (entries : Table Value) : List (Key × Value) :=
  entries.map fun entry => (.text entry.1, entry.2)

theorem insert_named (name : String) (value : Value) (entries : Table Value) :
    Value.insert (.text name) value (named entries) = named (entries.set name value) := by
  induction entries with
  | nil => rfl
  | cons entry rest ih =>
    change (if (entry.1 == name) = true then _ else _) = _
    rw [Table.set]
    by_cases same : entry.1 = name
    · rw [if_pos (beq_iff_eq.mpr same), if_pos same, same]
      rfl
    · rw [if_neg (by simpa using same), if_neg same]
      exact congrArg ((.text entry.1, entry.2) :: ·) ih

theorem ofEntries_named (entries : Table Value) :
    Value.ofEntries (named entries) = .dict (named entries.merged) := by
  have stored (table : Table Value) :
      (named entries).foldl (fun found entry => Value.insert entry.1 entry.2 found) (named table) =
        named (table.storeAll entries) := by
    induction entries generalizing table with
    | nil => rfl
    | cons entry rest ih =>
      change (named rest).foldl _ (Value.insert (.text entry.1) entry.2 (named table)) = _
      rw [insert_named, ih, Table.storeAll_cons]
  rw [Value.ofEntries, ← Table.storeAll_eq_merged]
  exact congrArg Value.dict (stored [])

/-! ## The normal form -/

def keyName : Key → String
  | .none => "null"
  | .bool true => "true"
  | .bool false => "false"
  | .int value => toString value
  | .float value => Double.textWith "NaN" "Infinity" value
  | .text name => name

theorem keyText_eq_keyName (key : Key) : keyText key = keyName key := by
  cases key with
  | none => rfl
  | bool value => cases value <;> rfl
  | int value => exact String.ofList_toList
  | float value => exact String.ofList_toList
  | text name => rfl

mutual

def normal : Value → Value
  | .none => .none
  | .bool value => .bool value
  | .int value => .int value
  | .float value => .float value
  | .text value => .text value
  | .list items => .list (normalItems items)
  | .dict entries => .dict (named (normalEntries entries).merged)

def normalItems : List Value → List Value
  | [] => []
  | item :: rest => normal item :: normalItems rest

def normalEntries : List (Key × Value) → Table Value
  | [] => []
  | (key, value) :: rest => (keyName key, normal value) :: normalEntries rest

end

theorem normalItems_eq_map (items : List Value) : normalItems items = items.map normal := by
  induction items with
  | nil => rfl
  | cons item rest ih => rw [normalItems, ih, List.map_cons]

theorem normalEntries_eq_map (entries : List (Key × Value)) :
    normalEntries entries = entries.map fun entry => (keyName entry.1, normal entry.2) := by
  induction entries with
  | nil => rfl
  | cons entry rest ih => rw [normalEntries, ih, List.map_cons]

/-- All keys are texts, and different ones in each dictionary. -/
inductive TextKeyed : Value → Prop
  | none : TextKeyed .none
  | bool (value : Bool) : TextKeyed (.bool value)
  | int (value : Int) : TextKeyed (.int value)
  | text (value : String) : TextKeyed (.text value)
  | list {items : List Value} : (∀ item ∈ items, TextKeyed item) → TextKeyed (.list items)
  | dict {entries : Table Value} : entries.keys.Nodup → (∀ entry ∈ entries, TextKeyed entry.2) →
      TextKeyed (.dict (named entries))

theorem TextKeyed.normal_eq {value : Value} (textual : TextKeyed value) : normal value = value := by
  induction textual with
  | none | bool | int | text => simp only [normal]
  | list _ ih =>
    rw [normal, normalItems_eq_map, List.map_congr_left ih, List.map_id']
  | @dict entries distinct _ ih =>
    have same : normalEntries (named entries) = entries := by
      rw [normalEntries_eq_map, named, List.map_map]
      refine (List.map_congr_left fun entry member => ?_).trans (List.map_id entries)
      exact congrArg (entry.1, ·) (ih entry member)
    rw [normal, same, Table.merged_of_nodup distinct]

end Refactory.Json
