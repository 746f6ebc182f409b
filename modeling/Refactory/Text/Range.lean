/-! Closed ranges of code points, the form in which character properties are tabled. -/

set_option autoImplicit false

namespace Refactory.Text

/-- The code points from the first component to the second, both included. -/
abbrev Range := Nat × Nat

def Range.holds (range : Range) (code : Nat) : Bool :=
  range.1 ≤ code && code ≤ range.2

def Range.anyHolds (ranges : List Range) (code : Nat) : Bool :=
  ranges.any (Range.holds · code)

end Refactory.Text
