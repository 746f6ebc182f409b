import Refactory.Double.Text
import Refactory.Source.Token
import Refactory.Text.Digits

/-! Scanning of numeric literals.

Each scanner takes the characters from the start of its part and returns what it read and the rest.
A literal must not run into a name, except into a word that may follow a number.
-/

set_option autoImplicit false

namespace Refactory.Source.Numeral

open Text (valueOf)

/-- May this character stand in a name, as far as its first byte tells? -/
def mayJoinName (c : Char) : Bool :=
  c.isAlphanum || c == '_' || 128 ≤ c.toNat

def followers : List (List Char) :=
  [['a', 'n', 'd'], ['e', 'l', 's', 'e'], ['f', 'o', 'r'], ['i', 'f'], ['i', 'n'], ['i', 's'],
    ['n', 'o', 't'], ['o', 'r']]

def endsBefore (rest : List Char) : Bool :=
  match rest with
  | [] => true
  | c :: _ => !mayJoinName c || followers.any (·.isPrefixOf rest)

/-- Digits with single underscores between them; `none` if an underscore has no digit after it. -/
def digitRun? (isDigit : Char → Bool) : List Char → Option (List Char × List Char)
  | [] => some ([], [])
  | c :: rest =>
      if isDigit c then (digitRun? isDigit rest).map fun (digits, rest) => (c :: digits, rest)
      else if c == '_' then match rest with
        | [] => none
        | next :: _ => if isDigit next then digitRun? isDigit rest else none
      else some ([], c :: rest)

structure Radix where
  base : Nat
  letter : Char
  kind : NumberKind
  isDigit : Char → Bool

def hexadecimal : Radix := ⟨16, 'x', .hexadecimal, Text.isHex⟩
def octal : Radix := ⟨8, 'o', .octal, Text.isOctal⟩
def binary : Radix := ⟨2, 'b', .binary, fun c => c == '0' || c == '1'⟩

def Radix.fault (radix : Radix) (rest : List Char) : Fault :=
  match rest with
  | c :: _ => if c.isDigit && radix.base < 10 then .invalidDigit c radix.kind
      else .invalidNumber radix.kind
  | [] => .invalidNumber radix.kind

/-- The part after the letter of the base. One underscore may stand first. -/
def Radix.scan (radix : Radix) (chars : List Char) : Except Fault (Number × List Char) :=
  let body := match chars with
    | '_' :: rest => rest
    | _ => chars
  match body with
  | [] => .error (radix.fault [])
  | c :: _ =>
      if !radix.isDigit c then .error (radix.fault body)
      else match digitRun? radix.isDigit body with
        | none => .error (radix.fault (afterUnderscore radix.isDigit body))
        | some (digits, rest) => match rest with
            | next :: _ =>
                -- a decimal digit that the base does not have
                if next.isDigit then .error (radix.fault rest)
                else if endsBefore rest then .ok (.int (valueOf radix.base digits), rest)
                else .error (.invalidNumber radix.kind)
            | [] => .ok (.int (valueOf radix.base digits), rest)
where
  /-- What stands after the first underscore without a digit behind it. -/
  afterUnderscore (isDigit : Char → Bool) : List Char → List Char
    | [] => []
    | c :: rest =>
        if isDigit c then afterUnderscore isDigit rest
        else match rest with
          | [] => []
          | next :: _ => if isDigit next then afterUnderscore isDigit rest else rest

def exponent (chars : List Char) : Except Fault (Option Int × List Char) :=
  match chars with
  | c :: rest =>
      if c == 'e' || c == 'E' then
        let (sign, digits) : Option Int × List Char := match rest with
          | '+' :: digits => (some 1, digits)
          | '-' :: digits => (some (-1), digits)
          | _ => (none, rest)
        match digits with
        | d :: _ =>
            if d.isDigit then match digitRun? Char.isDigit digits with
              | none => .error (.invalidNumber .decimal)
              | some (run, rest) => .ok (some (sign.getD 1 * (valueOf 10 run : Nat)), rest)
            -- without digits the letter may begin a word that follows the number
            else if sign.isSome || !endsBefore chars then .error (.invalidNumber .decimal)
            else .ok (none, chars)
        | [] => if sign.isSome || !endsBefore chars then .error (.invalidNumber .decimal)
            else .ok (none, chars)
      else .ok (none, chars)
  | [] => .ok (none, [])

/-- The part from the exponent on, for the digits before it; `whole` if there was no fraction. -/
def suffix (digits : List Char) (places : Nat) (whole : Bool) (chars : List Char) :
    Except Fault (Number × List Char) := do
  let (power, rest) ← exponent chars
  let value : Double.Decimal := ⟨valueOf 10 digits, power.getD 0 - (places : Int)⟩
  match rest with
  | c :: after =>
      if c == 'j' || c == 'J' then
        if endsBefore after then .ok (.imaginary value.pattern, after)
        else .error (.invalidNumber .imaginary)
      else finish value (whole && power.isNone) rest
  | [] => finish value (whole && power.isNone) rest
where
  finish (value : Double.Decimal) (whole : Bool) (rest : List Char) : Except Fault (Number × List Char) :=
    if !endsBefore rest then .error (.invalidNumber .decimal)
    else if !whole then .ok (.real value.pattern, rest)
    else if 4300 < digits.length then .error (.tooManyDigits digits.length)
    else .ok (.int value.digits, rest)

def fraction (digits : List Char) (chars : List Char) : Except Fault (Number × List Char) :=
  match chars with
  | c :: _ =>
      if c.isDigit then match digitRun? Char.isDigit chars with
        | none => .error (.invalidNumber .decimal)
        | some (places, rest) => suffix (digits ++ places) places.length false rest
      else suffix digits 0 false chars
  | [] => suffix digits 0 false chars

def decimal (chars : List Char) : Except Fault (Number × List Char) :=
  match digitRun? Char.isDigit chars with
  | none => .error (.invalidNumber .decimal)
  | some (digits, '.' :: rest) => fraction digits rest
  | some (digits, rest) =>
      -- only zero and floating-point numbers may begin with a zero
      let zeros := digits.head? == some '0' && digits.any (· != '0')
      let floats := match rest with
        | c :: _ => c == 'e' || c == 'E' || c == 'j' || c == 'J'
        | [] => false
      if zeros && !floats then .error .leadingZeros else suffix digits 0 true rest

def scan (chars : List Char) : Except Fault (Number × List Char) :=
  match chars with
  | '0' :: c :: rest =>
      match [hexadecimal, octal, binary].find? (·.letter == c.toLower) with
      | some radix => radix.scan rest
      | none => decimal chars
  | _ => decimal chars

end Refactory.Source.Numeral
