import Refactory.Double.Basic

/-! The shortest decimal that reads back as a given double.

A decimal reads back as a double when it lies in the interval of numbers that round to it, whose ends
belong to it exactly if the significand is even. Grids of one, two, … seventeen digits are tried; on
each only the two neighbours of the value can lie in the interval.
-/

set_option autoImplicit false

namespace Refactory.Double

structure Decimal where
  digits : Nat
  exponent : Int
  deriving DecidableEq, Repr

/-- The numbers that round to a magnitude, in quarters of its last place. -/
structure Interval where
  low : Nat
  middle : Nat
  high : Nat
  closed : Bool
  deriving DecidableEq, Repr

def Magnitude.interval (value : Magnitude) : Interval where
  -- below a power of two the doubles stand twice as close
  low := 4 * value.significand - (if value.significand = hiddenBit && value.scale ≠ 0 then 1 else 2)
  middle := 4 * value.significand
  high := 4 * value.significand + 2
  closed := value.significand % 2 = 0

def Interval.scaleBy (range : Interval) (factor : Nat) : Interval :=
  { range with low := range.low * factor, middle := range.middle * factor, high := range.high * factor }

def Interval.holds (range : Interval) (point : Nat) : Bool :=
  if range.closed then range.low ≤ point && point ≤ range.high
  else range.low < point && point < range.high

/-- The neighbour of the middle, on a grid of multiples of `step`, that lies in the interval; of two
the nearer, and of two equally near the even one. -/
def Interval.onGrid? (range : Interval) (step : Nat) : Option Nat :=
  let below := range.middle / step
  let lower := range.holds (below * step)
  let upper := range.holds ((below + 1) * step)
  if lower && upper then some (roundedQuotient range.middle step)
  else if lower then some below
  else if upper then some (below + 1)
  else none

/-- Places after the point that the search works with: enough for the smallest double. -/
def workingPlaces : Nat := 350

/-- The first of the grids of `count`, `count + 1`, … digits, at most `rounds` of them, with a hit. -/
def Interval.firstGrid? (range : Interval) (unit place : Nat) : Nat → Nat → Option Decimal
  | 0, _ => none
  | rounds + 1, count =>
      match range.onGrid? (unit * Nat.pow 10 (place - count)) with
      | some digits => some ⟨digits, (place : Int) - count - workingPlaces⟩
      | none => firstGrid? range unit place rounds (count + 1)

def Magnitude.shortest (value : Magnitude) : Decimal :=
  let unit := 4 * unitsPerOne
  let range := value.interval.scaleBy (Nat.pow 2 value.scale * Nat.pow 10 workingPlaces)
  let place := (Nat.toDigits 10 (range.middle / unit)).length
  (range.firstGrid? unit place 17 1).getD ⟨0, 0⟩

end Refactory.Double
