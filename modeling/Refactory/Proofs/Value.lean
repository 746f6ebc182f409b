import Refactory.Value.Basic

/-! Texts among dynamic values.

A text equals no other value, so it is found among values, keys and entries exactly where it is.
-/

set_option autoImplicit false

namespace Refactory

namespace Key

theorem same_text_iff {key : Key} {name : String} : key.same (.text name) = true ↔ key = .text name := by
  cases key with
  | text other => simp [same]
  | none | bool | int | float => simp [same, number?]

theorem text_same_iff {key : Key} {name : String} : (Key.text name).same key = true ↔ key = .text name := by
  cases key with
  | text other => simp [same, eq_comm (a := name)]
  | none | bool | int | float => simp [same, number?]

end Key

namespace Value

theorem equals_text_iff {value : Value} {name : String} :
    value.equals (.text name) = true ↔ value = .text name := by
  cases value with
  | list | dict => simp [equals, sameScalar, key?]
  | none | bool | int | float | text => simp [equals, sameScalar, key?, Key.same_text_iff]

theorem key?_eq_none_iff {value : Value} : value.key? = Option.none ↔ value.kind = .list ∨ value.kind = .dict := by
  cases value <;> simp [key?, kind]

theorem key?_eq_text_iff {value : Value} {name : String} :
    value.key? = some (.text name) ↔ value = .text name := by
  cases value <;> simp [key?]

theorem any_equals_text_iff {values : List Value} {name : String} :
    values.any (·.equals (.text name)) = true ↔ .text name ∈ values := by
  rw [List.any_eq_true]
  constructor
  · rintro ⟨value, member, same⟩
    exact equals_text_iff.mp same ▸ member
  · intro member
    exact ⟨_, member, equals_text_iff.mpr rfl⟩

instance (name : String) (values : List Value) : Decidable (.text name ∈ values) :=
  decidable_of_iff (values.any (·.equals (.text name)) = true) any_equals_text_iff

theorem lookup?_insert (name : String) (value : Value) (entries : List (Key × Value)) :
    lookup? (.text name) (insert (.text name) value entries) = some value := by
  induction entries with
  | nil => simp [insert, lookup?, Key.same]
  | cons entry rest ih =>
    unfold insert
    split
    · next same => simp [lookup?, same]
    · next apart => simp [lookup?, apart, ih]

end Value

end Refactory
