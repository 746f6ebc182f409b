import Refactory.Source.Reader

/-! What is reported for tokens that a reader cannot take.

When the plain pass is stuck, the explaining pass looks for a better account than "invalid syntax" at the
furthest token. A decisive lexical fault further on outranks either, and so does a bracket that is never
closed if it was opened on an earlier line.
-/

set_option autoImplicit false

namespace Refactory.Source

def lineAt (tokens : List Token) (index : Nat) : Nat :=
  match tokens[index]? with
  | some token => token.line
  | none => (tokens.getLast?.map (·.line)).getD 0

def finalFault? (tokens : List Token) : Option LexicalFault :=
  match tokens.getLast? with
  | some ⟨.fault cause, _, _⟩ => some cause
  | _ => none

namespace Report

/-- The report that stands in for one found at `line`, because of what follows. -/
def outrank (tokens : List Token) (line : Nat) (found : Report) : Report :=
  match finalFault? tokens with
  | none => found
  | some cause =>
      if cause.decisive then ⟨cause.fault, some cause.line, .lexer⟩
      else match cause.enclosing with
        | none => found
        | some bracket =>
            -- a bracket opened on the line of the report is no better account
            if bracket.line < line then ⟨.neverClosed bracket.opening, some bracket.line, .grammar⟩
            else found

/-- The report with its line, made when the furthest token looked at was `reached`. -/
def placed (tokens : List Token) (report : Report) (reached : Nat) : Report :=
  let line := lineAt tokens reached
  let found : Report := { report with line := some (report.line.getD line) }
  -- behind a lexical fault there are no tokens
  if report.origin = .lexer then found else outrank tokens line found

/-- The report for tokens that cannot be read on and show no common mistake. The plain pass came to
`stuckAt`, both passes to `reached`. -/
def general (tokens : List Token) (stuckAt reached : Nat) : Report :=
  let line := lineAt tokens reached
  match tokens[stuckAt]?.map Token.lexeme with
  | some .indent => ⟨.unexpectedIndent, some line, .grammar⟩
  | some .dedent => ⟨.unexpectedUnindent, some line, .grammar⟩
  | _ => outrank tokens line ⟨.invalidSyntax, some (lineAt tokens stuckAt), .grammar⟩

end Report

def Reader.diagnose {α : Type} (reader : Reader α) (tokens : List Token) : Report :=
  let start := Cursor.start tokens
  match reader .plain start with
  | .failed report reached => report.placed tokens reached
  -- never asked for: what can be read needs no report
  | .ok _ after => .general tokens after.reached after.reached
  | .stuck stuckAt => match reader .explain { start with reached := stuckAt } with
      | .failed report reached => report.placed tokens reached
      | .stuck reached => .general tokens stuckAt reached
      | .ok _ after => .general tokens stuckAt after.reached

end Refactory.Source
