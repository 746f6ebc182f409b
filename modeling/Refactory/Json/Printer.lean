import Refactory.Value.Basic

/-! Writing values as JSON.

All characters outside printable ASCII are escaped by their UTF-16 code units. Keys that are no texts
are written as texts. Items stand on one line, or each on a line of its own.
-/

set_option autoImplicit false

namespace Refactory.Json

def unitEscape (unit : Nat) : List Char :=
  '\\' :: 'u' :: Text.hexPadded 4 unit

def surrogates (code : Nat) : Nat × Nat :=
  (0xD800 + (code - 0x10000) / 0x400, 0xDC00 + (code - 0x10000) % 0x400)

def codeEscape (code : Nat) : List Char :=
  if code < 0x10000 then unitEscape code
  else unitEscape (surrogates code).1 ++ unitEscape (surrogates code).2

def escaped (c : Char) : List Char :=
  if c = '"' then ['\\', '"']
  else if c = '\\' then ['\\', '\\']
  else if c = '\n' then ['\\', 'n']
  else if c = '\r' then ['\\', 'r']
  else if c = '\t' then ['\\', 't']
  else if c = '\x0c' then ['\\', 'f']
  else if c = '\x08' then ['\\', 'b']
  else if 0x20 ≤ c.toNat && c.toNat ≤ 0x7E then [c]
  else codeEscape c.toNat

def string (text : String) : List Char :=
  '"' :: (text.toList.flatMap escaped ++ ['"'])

def number : Number → List Char
  | .int value => (toString value).toList
  | .float value => (Double.textWith "NaN" "Infinity" value).toList

def keyText : Key → String
  | .none => "null"
  | .bool value => if value then "true" else "false"
  | .int value => String.ofList (number (.int value))
  | .float value => String.ofList (number (.float value))
  | .text value => value

/-- How the items of a list or dictionary are set: on one line, or on lines of their own indented by
so many blanks a level. -/
inductive Layout where
  | line
  | lines (step : Nat)
  deriving DecidableEq, Repr

/-- What stands before the first item, and after the last one, of a level. -/
def Layout.break : Layout → Nat → List Char
  | .line, _ => []
  | .lines step, level => '\n' :: List.replicate (step * level) ' '

def Layout.separator : Layout → Nat → List Char
  | .line, _ => [',', ' ']
  | .lines step, level => ',' :: Layout.break (.lines step) level

def enclosed (layout : Layout) (level : Nat) (opening closing : Char) (items : List (List Char)) :
    List Char :=
  if items.isEmpty then [opening, closing]
  else opening :: (layout.break (level + 1)
    ++ List.intercalate (layout.separator (level + 1)) items ++ layout.break level ++ [closing])

mutual

def chars (layout : Layout) (level : Nat) : Value → List Char
  | .none => "null".toList
  | .bool value => (if value then "true" else "false").toList
  | .int value => number (.int value)
  | .float value => number (.float value)
  | .text value => string value
  | .list items => enclosed layout level '[' ']' (itemChars layout (level + 1) items)
  | .dict entries => enclosed layout level '\x7b' '\x7d' (entryChars layout (level + 1) entries)

def itemChars (layout : Layout) (level : Nat) : List Value → List (List Char)
  | [] => []
  | item :: rest => chars layout level item :: itemChars layout level rest

def entryChars (layout : Layout) (level : Nat) : List (Key × Value) → List (List Char)
  | [] => []
  | (key, value) :: rest =>
      (string (keyText key) ++ ':' :: ' ' :: chars layout level value) :: entryChars layout level rest

end

def render (layout : Layout) (value : Value) : String :=
  String.ofList (chars layout 0 value)

end Refactory.Json
