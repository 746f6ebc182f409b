/-! Reading bytes as UTF-8, with the cause and place of the first fault.

A fault covers the longest well-formed beginning of a character, so that a truncated character is
told from one whose next byte does not fit.
-/

set_option autoImplicit false

namespace Refactory.Text.Utf8

inductive Cause where
  | invalidStart
  | invalidContinuation
  | unexpectedEnd
  deriving DecidableEq, Repr

structure Fault where
  cause : Cause
  bytes : List UInt8
  position : Nat
  deriving DecidableEq, Repr

def Cause.text : Cause → String
  | .invalidStart => "invalid start byte"
  | .invalidContinuation => "invalid continuation byte"
  | .unexpectedEnd => "unexpected end of data"

def hexDigit (n : Nat) : Char :=
  Nat.digitChar (n % 16)

def hexByte (byte : UInt8) : String :=
  String.ofList [hexDigit (byte.toNat / 16), hexDigit byte.toNat]

def Fault.message (fault : Fault) : String :=
  let place := match fault.bytes with
    | [byte] => "byte 0x" ++ hexByte byte ++ " in position " ++ toString fault.position
    | bytes => "bytes in position " ++ toString fault.position ++ "-" ++
        toString (fault.position + bytes.length - 1)
  "'utf-8' codec can't decode " ++ place ++ ": " ++ fault.cause.text

/-- The ranges that the bytes after the first must lie in, by the first byte. -/
def continuations? (first : Nat) : Option (List (Nat × Nat)) :=
  if first < 0x80 then some []
  else if first < 0xC2 then none
  else if first < 0xE0 then some [(0x80, 0xBF)]
  else if first < 0xF0 then
    -- no overlong forms and no surrogates
    let second := if first = 0xE0 then (0xA0, 0xBF) else if first = 0xED then (0x80, 0x9F)
      else (0x80, 0xBF)
    some [second, (0x80, 0xBF)]
  else if first < 0xF5 then
    let second := if first = 0xF0 then (0x90, 0xBF) else if first = 0xF4 then (0x80, 0x8F)
      else (0x80, 0xBF)
    some [second, (0x80, 0xBF), (0x80, 0xBF)]
  else none

def leadBits (first count : Nat) : Nat :=
  match count with
  | 0 => first
  | 1 => first % 32
  | 2 => first % 16
  | _ => first % 8

/-- The state between two bytes: what the character read so far is worth, its bytes (latest first)
and the ranges that the next bytes must lie in. -/
structure Pending where
  code : Nat
  bytes : List UInt8
  awaited : List (Nat × Nat)

def decodeFrom (position : Nat) (state : Pending) : List UInt8 → List Char → Except Fault (List Char)
  | [], read => match state.awaited with
      | [] => .ok read.reverse
      | _ :: _ => .error ⟨.unexpectedEnd, state.bytes.reverse, position - state.bytes.length⟩
  | byte :: rest, read => match state.awaited with
      | [] => match continuations? byte.toNat with
          | none => .error ⟨.invalidStart, [byte], position⟩
          | some [] => decodeFrom (position + 1) ⟨0, [], []⟩ rest (Char.ofNat byte.toNat :: read)
          | some awaited =>
              decodeFrom (position + 1) ⟨leadBits byte.toNat awaited.length, [byte], awaited⟩ rest read
      | (low, high) :: later =>
          if low ≤ byte.toNat ∧ byte.toNat ≤ high then
            let code := state.code * 64 + byte.toNat % 64
            match later with
            | [] => decodeFrom (position + 1) ⟨0, [], []⟩ rest (Char.ofNat code :: read)
            | _ :: _ => decodeFrom (position + 1) ⟨code, byte :: state.bytes, later⟩ rest read
          -- the byte that does not fit is not part of the fault
          else .error ⟨.invalidContinuation, state.bytes.reverse, position - state.bytes.length⟩

def decode (bytes : List UInt8) : Except Fault String :=
  (decodeFrom 0 ⟨0, [], []⟩ bytes []).map String.ofList

def encode (text : String) : List UInt8 :=
  text.toList.flatMap String.utf8EncodeChar

end Refactory.Text.Utf8
