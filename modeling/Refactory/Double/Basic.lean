/-! Double-precision numbers as exact binary fractions.

Every finite double is a natural number of units of `2 ^ -1074`, up to sign. `nearest` is the rounding
of an exact fraction to such a number, ties going to the even neighbour; conversions from integers,
quotients of integers and the reading of decimals are all instances of it.
-/

set_option autoImplicit false

namespace Refactory.Double

/-- A finite magnitude: `significand * 2 ^ scale` units of `2 ^ -1074`. -/
structure Magnitude where
  significand : Nat
  scale : Nat
  deriving DecidableEq, Repr

def Magnitude.units (value : Magnitude) : Nat :=
  value.significand * Nat.pow 2 value.scale

inductive Parts where
  | notANumber
  | infinite (negative : Bool)
  | finite (negative : Bool) (magnitude : Magnitude)
  deriving DecidableEq, Repr

def signWeight : Nat := Nat.pow 2 63

def hiddenBit : Nat := Nat.pow 2 52

/-- The pattern of bits of the positive infinity, above those of all finite magnitudes. -/
def infinityPattern : Nat := 2047 * hiddenBit

def unitsPerOne : Nat := Nat.pow 2 1074

def Parts.ofPattern (negative : Bool) (pattern : Nat) : Parts :=
  if infinityPattern < pattern then .notANumber
  else if pattern = infinityPattern then .infinite negative
  -- below the smallest normal number there is no hidden bit
  else if pattern < hiddenBit then .finite negative ⟨pattern, 0⟩
  else .finite negative ⟨hiddenBit + pattern % hiddenBit, pattern / hiddenBit - 1⟩

def parts (value : Float) : Parts :=
  let bits := value.toBits.toNat
  Parts.ofPattern (signWeight ≤ bits) (bits % signWeight)

def ofPattern (negative : Bool) (pattern : Nat) : Float :=
  Float.ofBits (UInt64.ofNat (if negative then signWeight + pattern else pattern))

def infinity (negative : Bool) : Float :=
  ofPattern negative infinityPattern

/-- The quotient rounded to the nearest natural number, a tie going to the even one. -/
def roundedQuotient (numerator denominator : Nat) : Nat :=
  let floor := numerator / denominator
  let twice := 2 * (numerator % denominator)
  if twice < denominator then floor
  else if denominator < twice then floor + 1
  else floor + floor % 2

def nearestPattern? (numerator denominator : Nat) : Option Nat :=
  let units := numerator * unitsPerOne
  let scale := Nat.log2 (units / denominator) - 52
  -- a significand that is rounded up to the next power of two carries into the exponent
  let pattern := scale * hiddenBit + roundedQuotient units (denominator * Nat.pow 2 scale)
  if pattern < infinityPattern then some pattern else none

def nearest? (negative : Bool) (numerator denominator : Nat) : Option Float :=
  (nearestPattern? numerator denominator).map (ofPattern negative)

def ofInt? (value : Int) : Option Float :=
  nearest? (value < 0) value.natAbs 1

/-- The nearest double to a quotient of integers, with `divisor` not zero; none where it is too large. -/
def ofQuotient? (dividend divisor : Int) : Option Float :=
  nearest? ((dividend < 0) != (divisor < 0)) dividend.natAbs divisor.natAbs

def compare? (left right : Float) : Option Ordering :=
  if left < right then some .lt
  else if right < left then some .gt
  else if left == right then some .eq
  else none

/-- Compares an integer with a double without rounding either. -/
def compareInt? (left : Int) (right : Float) : Option Ordering :=
  match parts right with
  | .notANumber => none
  | .infinite negative => some (if negative then .gt else .lt)
  | .finite negative magnitude =>
      let units : Int := if negative then -magnitude.units else magnitude.units
      some (compare (left * unitsPerOne) units)

end Refactory.Double
