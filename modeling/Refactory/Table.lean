/-! Tables from texts to values that keep the order in which their keys first came. -/

set_option autoImplicit false

namespace Refactory

abbrev Table (α : Type) := List (String × α)

namespace Table

variable {α : Type}

def get? (table : Table α) (key : String) : Option α :=
  table.lookup key

/-- Stores a value under a key; a key that is already there keeps its place. -/
def set (key : String) (value : α) : Table α → Table α
  | [] => [(key, value)]
  | (other, old) :: rest => if other = key then (key, value) :: rest else (other, old) :: set key value rest

end Table

end Refactory
