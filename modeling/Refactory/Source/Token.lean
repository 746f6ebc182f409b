import Refactory.Source.Fault
import Refactory.Text.Normal

/-! Tokens of a source text. -/

set_option autoImplicit false

namespace Refactory.Source

/-- A numeric literal by its value: an integer, or the bits of the nearest double. -/
inductive Number where
  | int (value : Nat)
  | real (pattern : Nat)
  | imaginary (pattern : Nat)
  deriving DecidableEq, Repr

inductive LiteralKind where
  | text
  | bytes
  | formatted
  deriving DecidableEq, Repr

/-- A string literal without its letters and quotes. In a raw literal a backslash is plain. -/
structure StringLiteral where
  kind : LiteralKind
  raw : Bool
  body : List Char
  deriving DecidableEq, Repr

structure Bracket where
  opening : Char
  line : Nat
  deriving DecidableEq, Repr

/-- A fault of the characters themselves. A decisive fault outranks every fault that the grammar
finds before it; the others count only when a reader arrives at them. `enclosing` is the innermost
bracket that is open there. -/
structure LexicalFault where
  fault : Fault
  line : Nat
  decisive : Bool
  enclosing : Option Bracket
  deriving DecidableEq, Repr

structure Spelling where
  text : String
  nonempty : text ≠ ""
  deriving DecidableEq, Repr

namespace Spelling

def ofChars (first : Char) (rest : List Char) : Spelling :=
  ⟨String.ofList (first :: rest), by simp⟩

def normal (spelling : Spelling) : Spelling :=
  ⟨Text.normalForm spelling.text, Text.normalForm_ne_empty spelling.nonempty⟩

def dot (outer inner : Spelling) : Spelling :=
  ⟨outer.text ++ "." ++ inner.text, by simp⟩

end Spelling

inductive Lexeme where
  | name (spelling : Spelling)
  | word (spelling : String)
  | mark (spelling : String)
  | number (value : Number)
  | string (literal : StringLiteral)
  | lineEnd
  | indent
  | dedent
  | endOfSource
  | fault (cause : LexicalFault)
  deriving DecidableEq, Repr

/-- A lexeme, the line it starts on, and the number of brackets open after it. -/
structure Token where
  lexeme : Lexeme
  line : Nat
  depth : Nat
  deriving DecidableEq, Repr

def reservedWords : List String := ["False", "None", "True", "and", "as", "assert", "async",
  "await", "break", "class", "continue", "def", "del", "elif", "else", "except", "finally", "for",
  "from", "global", "if", "import", "in", "is", "lambda", "nonlocal", "not", "or", "pass", "raise",
  "return", "try", "while", "with", "yield"]

def softWords : List String := ["_", "case", "match"]

end Refactory.Source
