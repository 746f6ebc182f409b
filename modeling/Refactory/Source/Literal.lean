import Refactory.Source.Tree
import Refactory.Text.CharacterName

/-! The characters that string literals stand for.

In a text literal a backslash begins an escape; an unknown escape stands for itself. In a bytes
literal the escapes that need Unicode are unknown.
-/

set_option autoImplicit false

namespace Refactory.Source.Literal

open Text (isHex isOctal valueOf)

def simpleEscape? (c : Char) : Option Nat :=
  match c with
  | '\\' => some 0x5C
  | '\'' => some 0x27
  | '"' => some 0x22
  | 'a' => some 7
  | 'b' => some 8
  | 't' => some 9
  | 'n' => some 10
  | 'v' => some 11
  | 'f' => some 12
  | 'r' => some 13
  | _ => none

def octalDigits (chars : List Char) : List Char :=
  (chars.take 3).takeWhile isOctal

def hexDigits (count : Nat) (chars : List Char) : List Char :=
  (chars.take count).takeWhile isHex

def codedEscapes : List (Char × Nat × EscapeReason) :=
  [('x', 2, .truncatedByte), ('u', 4, .truncatedUnit), ('U', 8, .truncatedPoint)]

/-- How much room a character takes in the text that is decoded: others than ASCII are written as
escapes of their own. -/
def decodedWidth (c : Char) : Nat :=
  if c.toNat < 128 then 1 else 10

/-- A backslash before such a character is written as an escape, too. -/
def backslashWidth (rest : List Char) : Nat :=
  if rest.head?.any (128 ≤ ·.toNat) then 6 else 1

def namedEscape (chars : List Char) : Except (EscapeReason × Nat) (List Nat × Nat) :=
  match chars with
  | '{' :: rest =>
      let name := rest.takeWhile (· != '}')
      let width := name.foldl (fun total c => total + decodedWidth c) 0
      -- without its closing brace the name goes on to the end
      if name.isEmpty || name.length = rest.length then .error (.malformedName, width + 2)
      else match Text.codeOfName? name with
        | some code => .ok ([code], name.length + 3)
        | none => .error (.unknownName, width + 3)
  | _ => .error (.malformedName, 1)

/-- One escape of a text literal, from the character after the backslash on: what it stands for, and
how many characters it takes. If it is broken, the reason and the room up to where it breaks. -/
def textEscape (chars : List Char) : Except (EscapeReason × Nat) (List Nat × Nat) :=
  match chars with
  | [] => .ok ([0x5C], 0)
  | '\n' :: _ => .ok ([], 1)
  | 'N' :: rest => namedEscape rest
  | c :: rest =>
      match simpleEscape? c, codedEscapes.lookup c with
      | some code, _ => .ok ([code], 1)
      | none, some (count, truncated) =>
          let digits := hexDigits count rest
          let code := valueOf 16 digits
          if digits.length < count then .error (truncated, digits.length + 1)
          else if code < 0x110000 then .ok ([code], count + 1)
          else .error (.illegalCharacter, count + 1)
      | none, none =>
          if isOctal c then
            let digits := octalDigits chars
            .ok ([valueOf 8 digits], digits.length)
          -- an unknown escape is kept with its backslash
          else .ok ([0x5C, c.toNat], 1)

/-- The code points of a text body from a position on; `skip` characters belong to the last escape. -/
def textPoints (raw : Bool) : Nat → Nat → List Char → List Nat → Except Fault (List Nat)
  | _, _, [], points => .ok points.reverse
  | position, skip + 1, c :: rest, points => textPoints raw (position + decodedWidth c) skip rest points
  | position, 0, c :: rest, points =>
      if c = '\\' && !raw then match textEscape rest with
        | .error (reason, width) => .error (.badEscape (.undecodable reason position (position + width)))
        | .ok (found, taken) =>
            textPoints raw (position + backslashWidth rest) taken rest (found.reverse ++ points)
      else textPoints raw (position + decodedWidth c) 0 rest (c.toNat :: points)

def decodeText (raw : Bool) (body : List Char) : Except Fault (List Nat) :=
  textPoints raw 0 0 body []

def byteEscape? (chars : List Char) : Option (List Nat × Nat) :=
  match chars with
  | [] => some ([0x5C], 0)
  | '\n' :: _ => some ([], 1)
  | 'x' :: rest =>
      let digits := hexDigits 2 rest
      if digits.length < 2 then none else some ([valueOf 16 digits], 3)
  | c :: _ =>
      match simpleEscape? c with
      | some code => some ([code], 1)
      | none =>
          if isOctal c then
            let digits := octalDigits chars
            -- three octal digits may exceed a byte
            some ([valueOf 8 digits % 256], digits.length)
          else some ([0x5C, c.toNat], 1)

def byteCodes (raw : Bool) : Nat → Nat → List Char → List Nat → Except Fault (List Nat)
  | _, _, [], codes => .ok codes.reverse
  | position, skip + 1, _ :: rest, codes => byteCodes raw (position + 1) skip rest codes
  | position, 0, c :: rest, codes =>
      if c = '\\' && !raw then match byteEscape? rest with
        | none => .error (.badEscape (.invalidByte position))
        | some (found, taken) => byteCodes raw (position + 1) taken rest (found.reverse ++ codes)
      else byteCodes raw (position + 1) 0 rest (c.toNat :: codes)

def decodeBytes (raw : Bool) (body : List Char) : Except Fault (List Nat) :=
  if body.all (·.toNat < 128) then byteCodes raw 0 0 body [] else .error .nonAsciiBytes

end Refactory.Source.Literal
