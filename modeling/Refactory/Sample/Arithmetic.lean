import Refactory.Sample.Calculator

/-! Four operations over dynamic values, in one nested chain and with an operation of its own each.

A quotient by zero is the text `Error`, and an unknown operation gives zero.
-/

set_option autoImplicit false

namespace Refactory.Sample.Arithmetic

def nested (left right operation : Value) : Except ValueFault Value :=
  if operation.equals (.text "add") then left.add right
  else if operation.equals (.text "sub") then left.subtract right
  else if operation.equals (.text "mul") then do
    if ← left.compareWith .greater 0 then
      if ← right.compareWith .greater 0 then left.multiply right else return .int 0
    else return .int 0
  else if operation.equals (.text "div") then
    if right.isZero then .ok (.text "Error") else left.divide right
  else .ok (.int 0)

def positiveProduct (left right : Value) : Except ValueFault Value := do
  if ← Calculator.bothPositive left right then left.multiply right else return .int 0

def quotient (left right : Value) : Except ValueFault Value :=
  if right.isZero then .ok (.text "Error") else left.divide right

def split (left right operation : Value) : Except ValueFault Value :=
  if operation.equals (.text "add") then left.add right
  else if operation.equals (.text "sub") then left.subtract right
  else if operation.equals (.text "mul") then positiveProduct left right
  else if operation.equals (.text "div") then quotient left right
  else .ok (.int 0)

end Refactory.Sample.Arithmetic
