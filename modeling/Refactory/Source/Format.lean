import Refactory.Source.Literal

/-! Formatted string literals: plain text with fields in braces.

A field holds an expression, then perhaps `=` to show its text, a conversion after `!`, and a format
after `:` that may hold fields in turn. How the expression of a field is read is a parameter.
-/

set_option autoImplicit false

namespace Refactory.Source.Format

def refuse {α : Type} (detail : FieldFault) : Except Report α :=
  .error (.ofFault (.badField detail))

inductive Stop where
  /-- At a doubled brace, of which one belongs to the text. -/
  | doubled
  /-- Before a brace. -/
  | brace
  | finished
  deriving DecidableEq

/-- Plain text: how many characters belong to it, how it ends, and the rest. Doubled braces count only
outside formats. `skip` characters belong to a named escape. -/
def plainText (raw nested : Bool) (length : Nat) : Nat → List Char →
    Except Report (Nat × Stop × List Char)
  | _, [] => .ok (length, .finished, [])
  | skip + 1, _ :: rest => plainText raw nested (length + 1) skip rest
  | 0, c :: rest =>
      if c = '\\' && !raw then match rest with
        | 'N' :: '{' :: more =>
            plainText raw nested (length + 1) ((more.takeWhile (· != '}')).length + 3) rest
        | next :: _ =>
            -- a backslash does not cover a brace
            if next = '{' || next = '}' then plainText raw nested (length + 1) 0 rest
            else plainText raw nested (length + 1) 1 rest
        | [] => .ok (length + 1, .finished, [])
      else if c = '{' || c = '}' then
        if !nested && rest.head? = some c then .ok (length + 1, .doubled, rest.drop 1)
        else if !nested && c = '}' then refuse .singleBrace
        else .ok (length, .brace, c :: rest)
      else plainText raw nested (length + 1) 0 rest

/-- The state inside the expression of a field: the quotes of the string we are in, and the open
brackets. -/
structure Inside where
  quote : Option Char
  triple : Bool
  brackets : List Char

def closes (opening closing : Char) : Bool :=
  (opening = '(' && closing = ')') || (opening = '[' && closing = ']') ||
    (opening = '{' && closing = '}')

/-- The expression of a field: how many characters it has, and the rest, which begins with the
character that ends it. `skip` characters have been dealt with. -/
def fieldText (length : Nat) (inside : Inside) : Nat → List Char → Except Report (Nat × List Char)
  | _, [] => match inside.quote, inside.brackets with
      | some _, _ => refuse .unterminatedString
      | none, opening :: _ => refuse (.unmatched opening)
      | none, [] => refuse .expectingBrace
  | skip + 1, _ :: rest => fieldText (length + 1) inside skip rest
  | 0, c :: rest =>
      let followed := rest.head?
      if c = '\\' then refuse .backslash
      else match inside.quote with
        | some quote =>
            if c ≠ quote then fieldText (length + 1) inside 0 rest
            else if !inside.triple then
              fieldText (length + 1) { inside with quote := none } 0 rest
            else if [c, c].isPrefixOf rest then
              fieldText (length + 1) { inside with quote := none, triple := false } 2 rest
            else fieldText (length + 1) inside 0 rest
        | none =>
            if c = '\'' || c = '"' then
              if [c, c].isPrefixOf rest then
                fieldText (length + 1) { inside with quote := some c, triple := true } 2 rest
              else fieldText (length + 1) { inside with quote := some c, triple := false } 0 rest
            else if c = '[' || c = '{' || c = '(' then
              if 200 ≤ inside.brackets.length then refuse .tooManyBrackets
              else fieldText (length + 1) { inside with brackets := c :: inside.brackets } 0 rest
            else if c = '#' then refuse .comment
            else match inside.brackets with
              | [] =>
                  -- a comparison does not end the expression
                  if (c = '!' || c = '=' || c = '<' || c = '>') && followed = some '=' then
                    fieldText (length + 1) inside 1 rest
                  else if c = '!' || c = ':' || c = '}' || c = '=' then .ok (length, c :: rest)
                  else if c = ']' || c = ')' then
                    refuse (.unmatched c)
                  else fieldText (length + 1) inside 0 rest
              | opening :: outer =>
                  if c = ']' || c = '}' || c = ')' then
                    if closes opening c then
                      fieldText (length + 1) { inside with brackets := outer } 0 rest
                    else refuse (.mismatched c opening)
                  else fieldText (length + 1) inside 0 rest

def isFieldBlank (c : Char) : Bool :=
  c = ' ' || c = '\t' || c = '\n' || c = '\x0c'

def isSpace (c : Char) : Bool :=
  c = ' ' || (9 ≤ c.toNat && c.toNat ≤ 13)

def conversion? (chars : List Char) : Except Report (Option Char × List Char) :=
  match chars with
  | ['!'] => refuse .expectingBrace
  | '!' :: c :: rest =>
      if c = 's' || c = 'r' || c = 'a' then .ok (some c, rest)
      else refuse .invalidConversion
  | _ => .ok (none, chars)

/-- The text of a field that shows itself: through the equals sign and the blanks after it. -/
def shown? (expression rest : List Char) : Option (List Char × List Char) :=
  match rest with
  | '=' :: more =>
      let blanks := more.takeWhile isSpace
      some (expression ++ '=' :: blanks, more.drop blanks.length)
  | _ => none

def prependText (points : List Nat) (parts : List Expr) : List Expr :=
  match points, parts with
  | [], _ => parts
  | _, .constant (.text more) :: rest => .constant (.text (points ++ more)) :: rest
  | _, _ => .constant (.text points) :: parts

def emptyField (rest : List Char) : FieldFault :=
  match rest with
  | '}' :: _ => .empty
  | sign :: _ => .emptyBefore sign
  | [] => .empty

/-- The parts of a formatted literal from here on, and what is left, which is empty outside formats
and begins with the closing brace inside them. `level` counts the formats that we are in. The reader of
fields gets what is left of the literal and the expression. -/
def parts (readField : List Char → List Char → Except Report Expr) (raw : Bool) :
    Nat → Nat → List Char → Except Report (List Expr × List Char)
  | 0, _, _ => refuse .expectingBrace
  | fuel + 1, level, chars => do
      let (length, stop, rest) ← plainText raw (level ≠ 0) 0 0 chars
      let points ← (Literal.decodeText raw (chars.take length)).mapError Report.ofFault
      match stop, rest with
      | .doubled, _ => do
          let (more, left) ← parts readField raw fuel level rest
          return (prependText points more, left)
      | .brace, '{' :: inner => do
          if 2 ≤ level then refuse .tooDeep
          let (length, rest) ← fieldText 0 ⟨none, false, []⟩ 0 inner
          let expression := inner.take length
          if expression.all isFieldBlank then refuse (emptyField rest)
          let value ← readField inner expression
          let (text, rest) := match shown? expression rest with
            | some (text, rest) => (some text, rest)
            | none => (none, rest)
          let (conversion, rest) ← conversion? rest
          let (spec, rest) ← match rest with
            | ':' :: format => do
                let (found, left) ← parts readField raw fuel (level + 1) format
                pure (some (Expr.formatted found), left)
            | _ => pure (none, rest)
          match rest with
          | '}' :: after => do
              -- a field that shows itself is converted unless it is formatted
              let conversion := if text.isSome && spec.isNone && conversion.isNone then some 'r'
                else conversion
              let (more, left) ← parts readField raw fuel level after
              let field := Expr.field value conversion spec
              let shown := (text.getD []).map Char.toNat
              return (prependText (points ++ shown) (field :: more), left)
          | _ => refuse .expectingBrace
      | _, _ => return (prependText points [], rest)

def decode (readField : List Char → List Char → Except Report Expr) (raw : Bool) (body : List Char) :
    Except Report (List Expr) := do
  let (found, _) ← parts readField raw (body.length + 1) 0 body
  return found

end Refactory.Source.Format
