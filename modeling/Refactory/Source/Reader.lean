import Refactory.Source.Tree

/-! Readers: functions that take a construct from the front of the tokens.

A reader succeeds, is stuck, or fails. Stuck means that the construct is not there, and another one
may be tried; failed means that the text is wrong, and nothing else is tried. Repetitions take as
much as they can and never get stuck.

A text is read in one of two passes. The plain pass knows correct programs only. The explaining pass
is made when the plain one is stuck, and recognises common mistakes besides, to name them.
-/

set_option autoImplicit false

namespace Refactory.Source

inductive Pass where
  | plain
  | explain
  deriving DecidableEq, Repr

/-- A place among the tokens. `depth` is that of the last token taken, and `reached` is the index of
the furthest token that any reader has looked at. -/
structure Cursor where
  rest : List Token
  index : Nat
  depth : Nat
  reached : Nat
  deriving DecidableEq, Repr

namespace Cursor

def start (tokens : List Token) : Cursor :=
  ⟨tokens, 0, 0, 0⟩

def line? (cursor : Cursor) : Option Nat :=
  cursor.rest.head?.map (·.line)

end Cursor

inductive Outcome (α : Type) where
  | ok (value : α) (cursor : Cursor)
  | stuck (reached : Nat)
  | failed (report : Report) (reached : Nat)

def Reader (α : Type) : Type := Pass → Cursor → Outcome α

namespace Reader

variable {α β : Type}

protected def pure (value : α) : Reader α := fun _ cursor => .ok value cursor

protected def bind (reader : Reader α) (next : α → Reader β) : Reader β := fun pass cursor =>
  match reader pass cursor with
  | .ok value after => next value pass after
  | .stuck reached => .stuck reached
  | .failed report reached => .failed report reached

instance : Monad Reader where
  pure := Reader.pure
  bind := Reader.bind

def stuck : Reader α := fun _ cursor => .stuck cursor.reached

def failWith (report : Report) : Reader α := fun _ cursor => .failed report cursor.reached

/-- The text is wrong at the given line, or at the furthest token looked at. -/
def fail (fault : Fault) (line : Option Nat) : Reader α := failWith ⟨fault, line, .grammar⟩

def attempt (reader : Reader α) : Reader (Option α) := fun pass cursor =>
  match reader pass cursor with
  | .ok value after => .ok (some value) after
  -- the place is given back, but how far the reader looked is kept
  | .stuck reached => .ok none { cursor with reached }
  | .failed report reached => .failed report reached

def orElse (first second : Reader α) : Reader α := fun pass cursor =>
  match first pass cursor with
  | .stuck reached => second pass { cursor with reached }
  | outcome => outcome

def lookAhead (reader : Reader α) : Reader (Option α) := fun pass cursor =>
  match reader pass cursor with
  | .ok value after => .ok (some value) { cursor with reached := after.reached }
  | .stuck reached => .ok none { cursor with reached }
  | .failed report reached => .failed report reached

/-- Look for a mistake from a given place on, in the explaining pass only. Nothing is taken. -/
def watch (start : Cursor) (mistake : Reader Unit) : Reader Unit := fun pass cursor =>
  match pass with
  | .plain => .ok () cursor
  | .explain => match mistake pass { start with reached := cursor.reached } with
      | .ok _ after => .ok () { cursor with reached := after.reached }
      -- no mistake of this kind
      | .stuck reached => .ok () { cursor with reached }
      | .failed report reached => .failed report reached

def here : Reader Cursor := fun _ cursor => .ok cursor cursor

def orMistake (reader : Reader α) (mistake : Reader Unit) : Reader α :=
  orElse reader (do
    -- the reader is stuck in either case; a mistake makes it fail
    watch (← here) mistake
    stuck)

def plainly (reader : Reader α) : Reader α := fun _ cursor => reader .plain cursor

/-- Read at another place and come back. -/
def visit (start : Cursor) (reader : Reader α) : Reader α := fun pass cursor =>
  match reader pass { start with reached := cursor.reached } with
  | .ok value after => .ok value { cursor with reached := after.reached }
  | .stuck reached => .stuck reached
  | .failed report reached => .failed report reached

/-- The next token. A lexical fault ends the reading when it is looked at. -/
def peek : Reader Token := fun _ cursor =>
  let reached := max cursor.reached cursor.index
  match cursor.rest with
  | [] => .stuck reached
  | token :: _ => match token.lexeme with
      | .fault cause => .failed ⟨cause.fault, some cause.line, .lexer⟩ reached
      | _ => .ok token { cursor with reached }

def advance : Reader Unit := fun _ cursor =>
  match cursor.rest with
  | [] => .stuck cursor.reached
  | token :: rest => .ok () { cursor with rest, index := cursor.index + 1, depth := token.depth }

def line : Reader Nat := do
  return (← peek).line

def next : Reader Lexeme := do
  return (← peek).lexeme

def nextIs (lexeme : Lexeme) : Reader Bool := do
  return (← next) == lexeme

def accept (lexeme : Lexeme) : Reader Bool := do
  if ← nextIs lexeme then
    advance
    return true
  else return false

def take (lexeme : Lexeme) : Reader Unit := do
  if ← accept lexeme then return () else stuck

def nextIsMark (spelling : String) : Reader Bool := nextIs (.mark spelling)
def nextIsWord (spelling : String) : Reader Bool := nextIs (.word spelling)
def acceptMark (spelling : String) : Reader Bool := accept (.mark spelling)
def acceptWord (spelling : String) : Reader Bool := accept (.word spelling)
def mark (spelling : String) : Reader Unit := take (.mark spelling)
def word (spelling : String) : Reader Unit := take (.word spelling)

/-- A mark without which nothing else can be meant. -/
def requiredMark (required : HeaderMark) : Reader Unit := do
  if ← acceptMark required.text then return ()
  else fail (.expected required) (some (← line))

def spelling : Reader Spelling := do
  match ← next with
  | .name spelling => do
      advance
      return spelling
  | _ => stuck

def name : Reader Spelling := do
  return (← spelling).normal

def identifier : Reader String := do
  return (← name).text

def beforeMarks (spellings : List String) : Reader Unit := do
  match ← next with
  | .mark spelling => if spellings.contains spelling then return () else stuck
  | _ => stuck

def notBeforeMarks (spellings : List String) : Reader Unit := do
  match ← next with
  | .mark spelling => if spellings.contains spelling then stuck else return ()
  | _ => return ()

def many : Nat → Reader α → Reader (List α)
  | 0, _ => return []
  | limit + 1, reader => do
      match ← attempt reader with
      | none => return []
      | some value => return value :: (← many limit reader)

def many1 (limit : Nat) (reader : Reader α) : Reader (List α) := do
  let first ← reader
  return first :: (← many limit reader)

def separated (limit : Nat) (reader : Reader α) : Reader (List α) := do
  let first ← reader
  return first :: (← many limit (do mark ","; reader))

/-- Where the thing stands that goes on up to the token `stop`: parentheses around it, which hold
`content`, are not part of it. -/
def unwrapped (content : Reader Unit) : Nat → Nat → Reader Cursor
  | 0, _ => here
  | depth + 1, stop => do
      let inner ← lookAhead (do
        mark "("
        content
        let closing ← here
        mark ")"
        if (← here).index ≠ stop then stuck
        return closing.index)
      match inner with
      | none => here
      | some stop => do
          advance
          unwrapped content depth stop

/-- The text is wrong where the thing at `start` stands. -/
def failAt (fault : Fault) (start : Cursor) (content : Reader Unit) (thing : Reader α) :
    Reader β := do
  let place ← visit start (plainly (do
    let stop ← lookAhead (do
      let _ ← thing
      return (← here).index)
    unwrapped content start.rest.length (stop.getD 0)))
  fail fault place.line?

def extend : Nat → (α → Reader α) → α → Reader α
  | 0, _, value => return value
  | limit + 1, step, value => do
      match ← attempt (step value) with
      | none => return value
      | some longer => extend limit step longer

end Reader

end Refactory.Source
