import Refactory.Value.Basic

/-! Reading JSON.

Besides the standard's values the names `NaN`, `Infinity` and `-Infinity` are numbers. A number with a
fraction or an exponent is a double, any other an integer. Of several values for one key the last
counts, in the place of the first.
-/

set_option autoImplicit false

namespace Refactory.Json

inductive Cause where
  | byteOrderMark
  | expectedValue
  | expectedName
  | expectedColon
  | expectedComma
  | extraData
  | unterminatedString
  | controlCharacter
  | unknownEscape
  | malformedCode
  deriving DecidableEq, Repr

def Cause.text : Cause → String
  | .byteOrderMark => "Unexpected UTF-8 BOM (decode using utf-8-sig)"
  | .expectedValue => "Expecting value"
  | .expectedName => "Expecting property name enclosed in double quotes"
  | .expectedColon => "Expecting ':' delimiter"
  | .expectedComma => "Expecting ',' delimiter"
  | .extraData => "Extra data"
  | .unterminatedString => "Unterminated string starting at"
  | .controlCharacter => "Invalid control character at"
  | .unknownEscape => "Invalid \\escape"
  | .malformedCode => "Invalid \\uXXXX escape"

/-- What stops the reading: a cause before the given rest of the text, or an integer of too many digits. -/
inductive Stop where
  | malformed (cause : Cause) (rest : List Char)
  | integerTooLong (digits : Nat)
  deriving DecidableEq, Repr

def isSpace (c : Char) : Bool :=
  c = ' ' || c = '\t' || c = '\n' || c = '\r'

def skipSpace (rest : List Char) : List Char :=
  rest.dropWhile isSpace

def hexValue? (c : Char) : Option Nat :=
  if '0' ≤ c ∧ c ≤ '9' then some (c.toNat - '0'.toNat)
  else if 'a' ≤ c ∧ c ≤ 'f' then some (c.toNat - 'a'.toNat + 10)
  else if 'A' ≤ c ∧ c ≤ 'F' then some (c.toNat - 'A'.toNat + 10)
  else none

/-- The code unit that four hexadecimal digits in front give; a string that they belong to goes on
after them. -/
def codeUnit? : List Char → Option Nat
  | a :: b :: c :: d :: _ :: _ => do
      let a ← hexValue? a
      let b ← hexValue? b
      let c ← hexValue? c
      let d ← hexValue? d
      return ((a * 16 + b) * 16 + c) * 16 + d
  | _ => none

def isHighSurrogate (unit : Nat) : Bool := 0xD800 ≤ unit && unit ≤ 0xDBFF

def isLowSurrogate (unit : Nat) : Bool := 0xDC00 ≤ unit && unit ≤ 0xDFFF

/-- The character of a code unit; a surrogate on its own is none and is replaced. -/
def unitChar (unit : Nat) : Char :=
  if isHighSurrogate unit || isLowSurrogate unit then '\ufffd' else Char.ofNat unit

def codeEscaped (digits : List Char) : Except Stop (Char × Nat) :=
  match codeUnit? digits with
  | none => .error (.malformed .malformedCode ('u' :: digits))
  | some unit => match isHighSurrogate unit, digits.drop 4 with
      | true, '\\' :: 'u' :: more =>
          -- a second escape that is cut off is left for the next step to refuse
          if more.length < 5 then .ok (unitChar unit, 4)
          else match codeUnit? more with
            | none => .error (.malformed .malformedCode ('u' :: more))
            | some low =>
                if isLowSurrogate low then
                  .ok (Char.ofNat (0x10000 + (unit - 0xD800) * 0x400 + (low - 0xDC00)), 10)
                else .ok (unitChar unit, 4)
      | _, _ => .ok (unitChar unit, 4)

def letterEscaped? : Char → Option Char
  | '"' => some '"'
  | '\\' => some '\\'
  | '/' => some '/'
  | 'b' => some '\x08'
  | 'f' => some '\x0c'
  | 'n' => some '\n'
  | 'r' => some '\r'
  | 't' => some '\t'
  | _ => none

def escapeIn (start : List Char) : List Char → Except Stop (Char × Nat)
  | [] => .error (.malformed .unterminatedString start)
  | 'u' :: digits => (codeEscaped digits).map fun (c, count) => (c, count + 1)
  | letter :: rest => match letterEscaped? letter with
      | some c => .ok (c, 1)
      | none => .error (.malformed .unknownEscape ('\\' :: letter :: rest))

/-- The characters of a string up to its closing quote. `start` is the text from the opening quote, and
`skip` characters belong to the last escape. -/
def stringChars (start : List Char) : Nat → List Char → Except Stop (List Char × List Char)
  | _, [] => .error (.malformed .unterminatedString start)
  | skip + 1, _ :: rest => stringChars start skip rest
  | 0, c :: rest =>
      if c = '"' then .ok ([], rest)
      else if c = '\\' then do
        let (decoded, count) ← escapeIn start rest
        let (others, rest) ← stringChars start count rest
        return (decoded :: others, rest)
      else if c.toNat < 0x20 then .error (.malformed .controlCharacter (c :: rest))
      else do
        let (others, rest) ← stringChars start 0 rest
        return (c :: others, rest)

def readString (rest : List Char) : Except Stop (String × List Char) := do
  let (found, rest) ← stringChars ('"' :: rest) 0 rest
  return (String.ofList found, rest)

def words : List (String × Value) :=
  [("null", .none), ("true", .bool true), ("false", .bool false),
    ("NaN", .float (0 / 0)), ("Infinity", .float (Double.infinity false)),
    ("-Infinity", .float (Double.infinity true))]

def digitLimit : Nat := 4300

/-- The digits before the point: a zero on its own, or any digits that do not start with zero. -/
def wholeDigits : List Char → List Char
  | '0' :: _ => ['0']
  | chars => chars.takeWhile Char.isDigit

def takeMinus : List Char → Bool × List Char
  | '-' :: rest => (true, rest)
  | chars => (false, chars)

def readNumber (start : List Char) : Except Stop (Value × List Char) :=
  let (negative, unsigned) := takeMinus start
  let whole := wholeDigits unsigned
  if whole.isEmpty then .error (.malformed .expectedValue start)
  else
    let (fraction, rest) := Double.takeFraction (unsigned.drop whole.length)
    let (exponent, rest) := Double.takeExponent rest
    if fraction.isEmpty && exponent.isNone then
      if digitLimit < whole.length then .error (.integerTooLong whole.length)
      else
        let size : Int := Double.natOfDigits whole
        .ok (.int (if negative then -size else size), rest)
    else .ok (.float (Double.Numeral.toFloat ⟨negative, whole, fraction, exponent.getD 0⟩), rest)

def readAtom (start : List Char) : Except Stop (Value × List Char) :=
  match words.find? (fun word => word.1.toList.isPrefixOf start) with
  -- what follows the word is for the caller to look at
  | some (word, value) => .ok (value, start.drop word.length)
  | none => readNumber start

def readMany {α : Type} (closing : Char) (read : List Char → Except Stop (α × List Char)) :
    Nat → List Char → Except Stop (List α × List Char)
  | 0, rest => .error (.malformed .expectedComma rest)
  | bound + 1, rest => do
      let (item, rest) ← read rest
      match skipSpace rest with
      | [] => throw (.malformed .expectedComma [])
      | next :: rest =>
          if next = closing then return ([item], rest)
          else if next = ',' then
            -- a comma must be followed by another item
            let (others, rest) ← readMany closing read bound (skipSpace rest)
            return (item :: others, rest)
          else throw (.malformed .expectedComma (next :: rest))

def readEntry (read : List Char → Except Stop (Value × List Char)) :
    List Char → Except Stop ((Key × Value) × List Char)
  | '"' :: rest => do
      let (name, rest) ← readString rest
      match skipSpace rest with
      | ':' :: rest =>
          let (value, rest) ← read (skipSpace rest)
          return ((.text name, value), rest)
      | rest => throw (.malformed .expectedColon rest)
  | rest => .error (.malformed .expectedName rest)

/-- A value at the start of the text. Each level of lists and dictionaries takes one unit of depth. -/
def readValue : Nat → List Char → Except Stop (Value × List Char)
  | 0, rest => .error (.malformed .expectedValue rest)
  | depth + 1, start => match start with
      | '"' :: rest => do
          let (found, rest) ← readString rest
          return (.text found, rest)
      | '[' :: rest => match skipSpace rest with
          | ']' :: rest => .ok (.list [], rest)
          | rest => do
              let (items, rest) ← readMany ']' (readValue depth) (rest.length + 1) rest
              return (.list items, rest)
      | '\x7b' :: rest => match skipSpace rest with
          | '\x7d' :: rest => .ok (.dict [], rest)
          | rest => do
              let (entries, rest) ← readMany '\x7d' (readEntry (readValue depth)) (rest.length + 1) rest
              return (.ofEntries entries, rest)
      | _ => readAtom start

def readWhole (chars : List Char) : Except Stop Value :=
  match chars with
  | '\ufeff' :: _ => .error (.malformed .byteOrderMark chars)
  | _ => do
      let (value, rest) ← readValue (chars.length + 1) (skipSpace chars)
      match skipSpace rest with
      | [] => return value
      | rest => throw (.malformed .extraData rest)

/-- A fault with its place, counted in characters from zero and in lines and columns from one. -/
inductive Fault where
  | malformed (cause : Cause) (line column index : Nat)
  | integerTooLong (digits : Nat)
  deriving DecidableEq, Repr

def Fault.message : Fault → String
  | .malformed cause line column index =>
      cause.text ++ ": line " ++ toString line ++ " column " ++ toString column
        ++ " (char " ++ toString index ++ ")"
  | .integerTooLong digits =>
      "Exceeds the limit (" ++ toString digitLimit ++ " digits) for integer string conversion: value has "
        ++ toString digits ++ " digits; use sys.set_int_max_str_digits() to increase the limit"

def Stop.fault (chars : List Char) : Stop → Fault
  | .integerTooLong digits => .integerTooLong digits
  | .malformed cause rest =>
      let before := chars.take (chars.length - rest.length)
      let column := (before.reverse.takeWhile (· ≠ '\n')).length + 1
      .malformed cause (before.count '\n' + 1) column before.length

def parse (text : String) : Except Fault Value :=
  (readWhole text.toList).mapError (Stop.fault text.toList)

end Refactory.Json
