import Refactory.Value.Arithmetic

/-! A calculator over dynamic values, as a chain of conditions and as a table of operations.

Products are formed of positive operands only. The two programs differ in the zero that stands for any
other product and in what they make of an operation that cannot be a key.
-/

set_option autoImplicit false

namespace Refactory.Sample.Calculator

/-- Are both operands positive? The second is not looked at if the first is not. -/
def bothPositive (left right : Value) : Except ValueFault Bool := do
  if ← left.compareWith .greater 0 then right.compareWith .greater 0 else return false

def branching (left right operation : Value) : Except ValueFault Value :=
  if operation.equals (.text "add") then left.add right
  else if operation.equals (.text "sub") then left.subtract right
  else if operation.equals (.text "mul") then do
    if ← left.compareWith .greater 0 then
      if ← right.compareWith .greater 0 then left.multiply right else return .int 0
    else return .int 0
  else .ok .none

def positiveProduct (left right : Value) : Except ValueFault Value := do
  if ← bothPositive left right then left.multiply right else return .float 0

def operations : List (Key × (Value → Value → Except ValueFault Value)) :=
  [(.text "add", Value.add), (.text "sub", Value.subtract), (.text "mul", positiveProduct)]

def tabled (left right operation : Value) : Except ValueFault Value :=
  match operation.key? with
  | none => .error (.unhashable operation.kind)
  -- a table needs a key, while a chain of comparisons takes anything
  | some key => match operations.find? (·.1.same key) with
      | some (_, compute) => compute left right
      | none => .ok .none

end Refactory.Sample.Calculator
