import Refactory.Value.Arithmetic

/-! Prices with tax, with the rate fixed or given. -/

set_option autoImplicit false

namespace Refactory.Sample.Price

def standardRate : Value := .float 0.15

def withStandardRate (price : Value) : Except ValueFault Value := do
  price.add (← price.multiply standardRate)

/-- Is the rate between zero and one? The upper bound is not looked at if the lower fails. -/
def isRate (rate : Value) : Except ValueFault Bool := do
  if ← rate.isAtLeast 0 then rate.compareWith .atMost 1 else return false

/-- The price with tax at a given rate; negative prices and rates outside zero to one are refused. -/
def withRate (price rate : Value) : Except ValueFault Value := do
  if ← price.compareWith .less 0 then throw .negativePrice
  if !(← isRate rate) then throw .rateOutOfRange
  price.multiply (← Value.add (.int 1) rate)

end Refactory.Sample.Price
