import Refactory.Source.Token.Numeral
import Refactory.Text.Identifier
import Refactory.Text.Printable
import Refactory.Text.Lines

/-! From characters to tokens.

`Token.scan` reads a whole text. The list ends with `endOfSource`, or with the first lexical fault.
Blank lines and comments leave no token; a line end inside brackets leaves none either.
-/

set_option autoImplicit false

namespace Refactory.Source

/-- The width of leading white space, counted twice: with tab stops at every eighth column, and with
tabs as wide as a blank. Lines that compare differently under the two counts mix tabs and blanks. -/
structure Indentation where
  columns : Nat
  plain : Nat
  deriving DecidableEq, Repr

/-- What the lexer knows between two tokens: the number of lines begun, the open brackets with the
innermost first, and the open indentations with the innermost first. -/
structure LexState where
  line : Nat
  brackets : List Bracket
  indents : List Indentation
  deriving DecidableEq, Repr

namespace LexState

def start : LexState := ⟨1, [], [⟨0, 0⟩]⟩

/-- The line after a line end, which begins only if something follows. -/
def afterLineEnd (state : LexState) (rest : List Char) : LexState :=
  if rest.isEmpty then state else { state with line := state.line + 1 }

def token (state : LexState) (lexeme : Lexeme) : Token :=
  ⟨lexeme, state.line, state.brackets.length⟩

def faultToken (state : LexState) (fault : Fault) (line : Nat) (decisive : Bool) : Token :=
  state.token (.fault ⟨fault, line, decisive, state.brackets.head?⟩)

/-- The text ends where more is needed: an open bracket is the cause if there is one. -/
def endFault (state : LexState) : Token :=
  match state.brackets with
  | [] => state.faultToken .unexpectedEnd state.line false
  | bracket :: _ => state.faultToken (.neverClosed bracket.opening) bracket.line false

end LexState

/-- Leading white space: its width, the lines that backslashes joined, and the rest; or a fault,
with the lines joined before it. The first backslash fixes the width. -/
def measureIndent (width : Indentation) (fixed : Nat) (joined : Nat) :
    List Char → Except (Fault × Nat) (Indentation × Nat × List Char)
  | ' ' :: rest => measureIndent ⟨width.columns + 1, width.plain + 1⟩ fixed joined rest
  | '\t' :: rest =>
      measureIndent ⟨(width.columns / 8 + 1) * 8, width.plain + 1⟩ fixed joined rest
  -- a form feed starts the line anew
  | '\x0c' :: rest => measureIndent ⟨0, 0⟩ fixed joined rest
  | '\\' :: '\n' :: rest =>
      if rest.isEmpty then .error (.unexpectedEnd, joined)
      else measureIndent width (if fixed = 0 then width.columns else fixed) (joined + 1) rest
  | '\\' :: _ => .error (.afterContinuation, joined)
  | rest => .ok (if fixed = 0 then width else ⟨fixed, fixed⟩, joined, rest)

def closeIndents (columns : Nat) : List Indentation → Nat × List Indentation
  | [] => (0, [])
  | [outermost] => (0, [outermost])
  | innermost :: outer =>
      if columns < innermost.columns then
        let (closed, left) := closeIndents columns outer
        (closed + 1, left)
      else (0, innermost :: outer)

def maxIndents : Nat := 100

def maxBrackets : Nat := 200

def indentLexemes (width : Indentation) (indents : List Indentation) :
    Except Fault (List Lexeme × List Indentation) :=
  match indents with
  | [] => .ok ([], [])
  | current :: _ =>
      if width.columns = current.columns then
        -- equal widths at tabs of eight must be equal at tabs of one
        if width.plain = current.plain then .ok ([], indents) else .error .inconsistentTabs
      else if current.columns < width.columns then
        if maxIndents ≤ indents.length then .error .tooDeep
        else if width.plain ≤ current.plain then .error .inconsistentTabs
        else .ok ([.indent], width :: indents)
      else
        let (closed, left) := closeIndents width.columns indents
        match left with
        | [] => .ok ([], [])
        | outer :: _ =>
            if width.columns ≠ outer.columns then .error .unindentMismatch
            else if width.plain ≠ outer.plain then .error .inconsistentTabs
            else .ok (List.replicate closed .dedent, left)

def literalLetters : List (List Char × LiteralKind × Bool) :=
  [(['b'], .bytes, false), (['r'], .text, true), (['u'], .text, false), (['f'], .formatted, false),
    (['b', 'r'], .bytes, true), (['r', 'b'], .bytes, true),
    (['f', 'r'], .formatted, true), (['r', 'f'], .formatted, true)]

/-- The end of a literal in single quotes, which must stand on its line: how many characters come
before it, how many lines they begin, and what comes after. `length` and `lines` count on. -/
def endOfShort (quote : Char) (length lines : Nat) : List Char → Except Nat (Nat × Nat × List Char)
  | [] => .error lines
  | '\n' :: _ => .error lines
  -- a backslash covers the next character, be it a quote or a line end
  | '\\' :: c :: rest =>
      endOfShort quote (length + 2) (if c = '\n' ∧ !rest.isEmpty then lines + 1 else lines) rest
  | c :: rest =>
      if c = quote then .ok (length, lines, rest) else endOfShort quote (length + 1) lines rest

def endOfLong (quote : Char) (length lines : Nat) : List Char → Except Nat (Nat × Nat × List Char)
  | [] => .error lines
  | '\\' :: c :: rest =>
      endOfLong quote (length + 2) (if c = '\n' ∧ !rest.isEmpty then lines + 1 else lines) rest
  | c :: rest =>
      if c = quote ∧ [quote, quote].isPrefixOf rest then .ok (length, lines, rest.drop 2)
      else endOfLong quote (length + 1) (if c = '\n' ∧ !rest.isEmpty then lines + 1 else lines) rest

def scanQuoted (quote : Char) (line : Nat) (chars : List Char) :
    Except Fault (List Char × Nat × List Char) :=
  if [quote, quote].isPrefixOf chars then
    let inner := chars.drop 2
    match endOfLong quote 0 0 inner with
    | .ok (length, lines, rest) => .ok (inner.take length, lines, rest)
    | .error lines => .error (.unterminatedBlockString (line + lines))
  else match endOfShort quote 0 0 chars with
    | .ok (length, lines, rest) => .ok (chars.take length, lines, rest)
    | .error lines => .error (.unterminatedString (line + lines))

def longMarks : List (List Char) :=
  [['*', '*', '='], ['/', '/', '='], ['<', '<', '='], ['>', '>', '='], ['.', '.', '.'],
    ['!', '='], ['%', '='], ['&', '='], ['*', '*'], ['*', '='], ['+', '='], ['-', '='], ['-', '>'],
    ['/', '/'], ['/', '='], [':', '='], ['<', '<'], ['<', '='], ['<', '>'], ['=', '='], ['>', '='],
    ['>', '>'], ['@', '='], ['^', '='], ['|', '=']]

def partner (closing : Char) : Char :=
  if closing = ')' then '(' else if closing = ']' then '[' else '{'

def scanMark (state : LexState) (c : Char) : Except Fault LexState :=
  if c = '(' ∨ c = '[' ∨ c = '{' then
    if maxBrackets ≤ state.brackets.length then .error .tooManyBrackets
    else .ok { state with brackets := ⟨c, state.line⟩ :: state.brackets }
  else if c = ')' ∨ c = ']' ∨ c = '}' then
    match state.brackets with
    | [] => .error (.unmatched c)
    | bracket :: outer =>
        if bracket.opening = partner c then .ok { state with brackets := outer }
        else .error (.mismatched c bracket.opening
          -- the line of the opening bracket is told only if it is another one
          (if bracket.line = state.line then none else some bracket.line))
  else if Text.isPrintable c then .ok state
  else .error (.unprintableCharacter c)

def identifierFault? (first : Char) (rest : List Char) : Option Char :=
  if Text.isIdentifierStart first then rest.find? (!Text.isIdentifierTail ·) else some first

def nameLexeme (first : Char) (rest : List Char) : Except Fault Lexeme :=
  let spelling := Spelling.ofChars first rest
  if (first :: rest).all (·.toNat < 128) then
    .ok (if reservedWords.contains spelling.text then .word spelling.text else .name spelling)
  else match identifierFault? first rest with
    -- a word is reserved in ASCII only, even if another spelling normalises to it
    | none => .ok (.name spelling)
    | some c =>
        .error (if Text.isPrintable c then .invalidCharacter c else .unprintableCharacter c)

inductive Step where
  /-- A token, the state after it, and the rest. -/
  | token (token : Token) (state : LexState) (rest : List Char)
  /-- Nothing but blanks, a comment or a joined line. -/
  | skip (state : LexState) (rest : List Char)
  /-- The end of a line outside brackets. -/
  | lineEnd (token : Token) (rest : List Char)
  /-- The last token. -/
  | stop (token : Token)

def stringStep (state : LexState) (kind : LiteralKind) (raw : Bool) (quote : Char)
    (rest : List Char) : Step :=
  match scanQuoted quote state.line rest with
  | .error fault => .stop (state.faultToken fault state.line true)
  | .ok (body, lines, rest) =>
      .token (state.token (.string ⟨kind, raw, body⟩)) { state with line := state.line + lines } rest

def nameStep (state : LexState) (first : Char) (chars : List Char) : Step :=
  let others := chars.takeWhile Numeral.mayJoinName
  let rest := chars.dropWhile Numeral.mayJoinName
  -- letters directly before a quote may be those of a literal
  let literal := match rest with
    | quote :: after =>
        if quote = '\'' ∨ quote = '"' then
          (literalLetters.lookup ((first :: others).map Char.toLower)).map (·, quote, after)
        else none
    | [] => none
  match literal with
  | some ((kind, raw), quote, after) => stringStep state kind raw quote after
  | none => match nameLexeme first others with
      | .ok lexeme => .token (state.token lexeme) state rest
      | .error fault => .stop (state.faultToken fault state.line true)

def numberStep (state : LexState) (scanned : Except Fault (Number × List Char)) : Step :=
  match scanned with
  | .ok (number, rest) => .token (state.token (.number number)) state rest
  | .error fault => .stop (state.faultToken fault state.line true)

def markStep (state : LexState) (c : Char) (rest : List Char) : Step :=
  match longMarks.find? (·.isPrefixOf (c :: rest)) with
  | some mark =>
      .token (state.token (.mark (String.ofList mark))) state ((c :: rest).drop mark.length)
  | none => match scanMark state c with
      | .ok after => .token (after.token (.mark c.toString)) after rest
      | .error fault => .stop (state.faultToken fault state.line true)

def step (state : LexState) : List Char → Step
  | [] => match state.brackets with
      | [] => .stop (state.token .endOfSource)
      | _ :: _ => .stop state.endFault
  | '\n' :: rest => match state.brackets with
      | [] => .lineEnd (state.token .lineEnd) rest
      -- inside brackets a line end is a blank
      | _ :: _ => .skip (state.afterLineEnd rest) rest
  | '\\' :: '\n' :: rest =>
      if rest.isEmpty then .stop state.endFault
      else .skip { state with line := state.line + 1 } rest
  | c :: rest =>
      if c = ' ' ∨ c = '\t' ∨ c = '\x0c' then .skip state rest
      else if c = '#' then .skip state (rest.dropWhile (· != '\n'))
      else if c = '\\' then .stop (state.faultToken .afterContinuation state.line false)
      else if c.isDigit then numberStep state (Numeral.scan (c :: rest))
      else if Numeral.mayJoinName c then nameStep state c rest
      else if c = '\'' ∨ c = '"' then stringStep state .text false c rest
      else if c = '.' ∧ rest.head?.any Char.isDigit then
        numberStep state (Numeral.fraction [] rest)
      else markStep state c rest

/-- Read on at the start of a line: the tokens of its indentation and the rest, or the last token.
A line without tokens has no indentation. -/
def beginLine (state : LexState) (chars : List Char) :
    Except Token (List Token × LexState × List Char) :=
  match measureIndent ⟨0, 0⟩ 0 0 chars with
  | .error (fault, joined) => .error (state.faultToken fault (state.line + joined) false)
  | .ok (width, joined, rest) =>
      let state := { state with line := state.line + joined }
      if rest.head? = some '#' ∨ rest.head? = some '\n' then .ok ([], state, rest)
      else match indentLexemes width state.indents with
        | .error fault => .error (state.faultToken fault state.line false)
        | .ok (lexemes, indents) =>
            .ok (lexemes.map state.token, { state with indents }, rest)

def blankLine? (state : LexState) (rest : List Char) : Option (LexState × List Char) :=
  match rest with
  | c :: _ =>
      if c = '#' ∨ c = '\n' then
        let rest := (rest.dropWhile (· != '\n')).drop 1
        some (state.afterLineEnd rest, rest)
      else none
  | [] => none

/-- Each round takes at least one character, or goes from the start of a line into it. -/
def scanFrom : Nat → Bool → LexState → List Char → List Token
  | 0, _, _, _ => []
  | fuel + 1, true, state, chars => match beginLine state chars with
      | .error token => [token]
      | .ok (tokens, state, rest) => match blankLine? state rest with
          | some (state, rest) => scanFrom fuel true state rest
          -- the tokens of an indentation count only if the line has others
          | none => tokens ++ scanFrom fuel false state rest
  | fuel + 1, false, state, chars => match step state chars with
      | .token token state rest => token :: scanFrom fuel false state rest
      | .skip state rest => scanFrom fuel false state rest
      | .lineEnd token rest => token :: scanFrom fuel true (state.afterLineEnd rest) rest
      | .stop token => [token]

/-- Line ends are unified and the last line is ended. A final return with a line feed stands for two
line ends. -/
def prepare (chars : List Char) : List Char :=
  let unified := Text.unifyLineEnds chars
  match chars.reverse with
  | '\n' :: '\r' :: _ => unified ++ ['\n']
  | '\n' :: _ => unified
  | '\r' :: _ => unified
  | _ => unified ++ ['\n']

def LexState.tokens (state : LexState) (chars : List Char) : List Token :=
  let prepared := prepare chars
  scanFrom (2 * prepared.length + 2) true state prepared

def Token.scan (chars : List Char) : List Token :=
  LexState.start.tokens chars

end Refactory.Source
