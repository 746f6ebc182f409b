import Refactory.Source.Statement

/-! Reading of whole programs.

`Program.parse` gives the tree of a text, or the error that is reported for it. The tree comes from the
lexemes alone; the lines they stand on are for the errors.
-/

set_option autoImplicit false

namespace Refactory.Source

open Reader

def program (fuel : Nat) : Reader Program := do
  let found ← many fuel (Stmt.read fuel)
  take .endOfSource
  return ⟨found.flatten⟩

def Token.unplaced (token : Token) : Token := { token with line := 0 }

def Token.isFault (token : Token) : Bool :=
  match token.lexeme with
  | .fault _ => true
  | _ => false

/-- How much a token gives to read: a formatted literal holds expressions of its own. -/
def Token.bulk (token : Token) : Nat :=
  match token.lexeme with
  | .string literal => literal.body.length + 4
  | _ => 1

/-- Readers go on by at least one token, or one character of a literal, at a time. -/
def fuelFor (tokens : List Token) : Nat :=
  (tokens.map Token.bulk).foldr (· + ·) 3

/-- The program that the tokens spell, whatever lines they stand on. With a lexical fault among them
they spell none. -/
def Program.ofTokens? (tokens : List Token) : Option Program :=
  if tokens.any Token.isFault then none
  -- the lines are taken away: the tree cannot depend on them
  else match program (fuelFor tokens) .plain (Cursor.start (tokens.map Token.unplaced)) with
    | .ok found _ => some found
    | _ => none

def syntaxErrorOf (tokens : List Token) : SyntaxError :=
  let report := (program (fuelFor tokens)).diagnose tokens
  ⟨report.fault, report.line⟩

def Program.ofTokens (tokens : List Token) : Except SyntaxError Program :=
  match Program.ofTokens? tokens with
  | some found => .ok found
  | none => .error (syntaxErrorOf tokens)

def Program.parse (text : String) : Except SyntaxError Program :=
  let chars := text.toList
  if chars.contains '\x00' then .error ⟨.nullBytes, none⟩
  else Program.ofTokens (Token.scan chars)

end Refactory.Source
