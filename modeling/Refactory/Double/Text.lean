import Refactory.Double.Shortest

/-! The text of a double, and its reading.

The fewest digits that read back are written, positionally from `0.0001` up to sixteen digits before
the point and with an exponent of at least two digits otherwise.
-/

set_option autoImplicit false

namespace Refactory.Double

def zeros (count : Nat) : String :=
  String.ofList (List.replicate count '0')

def withoutFinalZeros (digits : List Char) : List Char :=
  (digits.reverse.dropWhile (· = '0')).reverse

def exponentText (exponent : Int) : String :=
  let digits := toString exponent.natAbs
  (if exponent < 0 then "-" else "+") ++ (if digits.length < 2 then "0" ++ digits else digits)

/-- Writes `0.d₁d₂… * 10 ^ point`. -/
def digitsText (digits : List Char) (point : Int) : String :=
  if point ≤ -4 || 16 < point then
    let fraction := digits.drop 1
    String.ofList (digits.take 1) ++ (if fraction.isEmpty then "" else "." ++ String.ofList fraction)
      ++ "e" ++ exponentText (point - 1)
  else if point ≤ 0 then "0." ++ zeros point.natAbs ++ String.ofList digits
  else
    let whole := point.natAbs
    if digits.length ≤ whole then String.ofList digits ++ zeros (whole - digits.length) ++ ".0"
    else String.ofList (digits.take whole) ++ "." ++ String.ofList (digits.drop whole)

def Decimal.text (value : Decimal) : String :=
  let digits := Nat.toDigits 10 value.digits
  digitsText (withoutFinalZeros digits) (digits.length + value.exponent)

def Magnitude.text (value : Magnitude) : String :=
  if value.significand = 0 then "0.0" else value.shortest.text

def textWith (notANumber infinity : String) (value : Float) : String :=
  match parts value with
  | .notANumber => notANumber
  | .infinite negative => (if negative then "-" else "") ++ infinity
  | .finite negative magnitude => (if negative then "-" else "") ++ magnitude.text

def text : Float → String :=
  textWith "nan" "inf"

/-- The bits of the double nearest to a decimal, those of infinity if it is too large. -/
def Decimal.pattern (value : Decimal) : Nat :=
  let size : Int := (Nat.toDigits 10 value.digits).length + value.exponent
  -- far outside the range of doubles the number of digits settles it, and no power of ten is computed
  if value.digits = 0 || size < -400 then 0
  else if 400 < size then infinityPattern
  else
    let found :=
      if 0 ≤ value.exponent then nearestPattern? (value.digits * Nat.pow 10 value.exponent.natAbs) 1
      else nearestPattern? value.digits (Nat.pow 10 value.exponent.natAbs)
    found.getD infinityPattern

def Decimal.toFloat (negative : Bool) (value : Decimal) : Float :=
  ofPattern negative value.pattern

def natOfDigits (digits : List Char) : Nat :=
  digits.foldl (fun total digit => 10 * total + (digit.toNat - '0'.toNat)) 0

structure Numeral where
  negative : Bool
  whole : List Char
  fraction : List Char
  exponent : Int
  deriving Repr

def Numeral.decimal (numeral : Numeral) : Decimal :=
  ⟨natOfDigits (numeral.whole ++ numeral.fraction), numeral.exponent - numeral.fraction.length⟩

def Numeral.toFloat (numeral : Numeral) : Float :=
  numeral.decimal.toFloat numeral.negative

def takeSign : List Char → Bool × List Char
  | '-' :: rest => (true, rest)
  | '+' :: rest => (false, rest)
  | chars => (false, chars)

def takeFraction (chars : List Char) : List Char × List Char :=
  match chars with
  | '.' :: rest =>
      let digits := rest.takeWhile Char.isDigit
      -- a point without digits is not part of the number
      if digits.isEmpty then ([], chars) else (digits, rest.dropWhile Char.isDigit)
  | _ => ([], chars)

def takeExponent (chars : List Char) : Option Int × List Char :=
  match chars with
  | mark :: rest =>
      if mark = 'e' || mark = 'E' then
        let (negative, unsigned) := takeSign rest
        let digits := unsigned.takeWhile Char.isDigit
        if digits.isEmpty then (none, chars)
        else
          let size : Int := natOfDigits digits
          (some (if negative then -size else size), unsigned.dropWhile Char.isDigit)
      else (none, chars)
  | [] => (none, chars)

def ofText? (written : String) : Option Float :=
  let (negative, chars) := takeSign written.toList
  if chars = "nan".toList then some (ofPattern false (infinityPattern + hiddenBit / 2))
  else if chars = "inf".toList then some (infinity negative)
  else
    let whole := chars.takeWhile Char.isDigit
    let (fraction, rest) := takeFraction (chars.dropWhile Char.isDigit)
    let (exponent, rest) := takeExponent rest
    if whole.isEmpty || !rest.isEmpty then none
    else some (Numeral.toFloat ⟨negative, whole, fraction, exponent.getD 0⟩)

end Refactory.Double
