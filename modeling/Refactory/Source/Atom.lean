import Refactory.Source.Diagnosis
import Refactory.Source.Format
import Refactory.Source.Target
import Refactory.Source.Token.Lexer

/-! Reading of atoms: names, literals, and what stands in brackets.

Expressions are read by levels of binding strength. The readers of one level take the readers of all
levels as a parameter, for the parts that stand inside brackets or after an operator. Each use of the
parameter comes after a token has been taken, so a fuel as large as the text is enough. `limit` bounds
the repetitions in the same way.

Readers of mistakes succeed in nothing: they fail with the fault of the mistake, or they are stuck.
-/

set_option autoImplicit false

namespace Refactory.Source

/-- Levels at which an expression may be asked for, from the weakest binding on. -/
inductive Level where
  | expression
  | disjunction
  | inversion
  | bitOr
  | factor
  | primary
  | atom
  deriving DecidableEq, Repr

abbrev Levels := Level → Reader Expr

def Expr.isStarred : Expr → Bool
  | .starred _ _ => true
  | _ => false

namespace Levels

open Reader

variable (self : Levels) (limit : Nat)

def walrus : Reader Expr := do
  let id ← identifier
  mark ":="
  return .binding (.name id .store) (← self .expression)

def nextIsWalrus : Reader Bool := do
  match ← next with
  | .name _ => return (← lookAhead (do advance; mark ":=")).isSome
  | _ => return false

def star : Reader Expr := do
  if ← acceptMark "*" then return .starred (← self .bitOr) .load
  else self .expression

def starExpressions : Reader Expr := do
  let first ← star self
  if ← nextIsMark "," then
    let others ← many limit (do mark ","; star self)
    let _ ← acceptMark ","
    return .tuple (first :: others) .load
  else return first

def yielded : Reader Expr := do
  word "yield"
  if ← acceptWord "from" then return .yieldFrom (← self .expression)
  else return .yield (← attempt (starExpressions self limit))

/-- What may stand in parentheses that only keep it together. -/
def groupContent : Reader Unit := do
  if ← nextIsWord "yield" then discard (yielded self limit)
  else if ← nextIsWalrus then discard (walrus self)
  else discard (self .expression)

def failAtValue (fault : Fault) (start : Cursor) (value : Reader Expr) : Reader Unit :=
  failAt fault start (groupContent self start.rest.length) value

def displayAhead : Reader Unit := do
  match ← next with
  | .word "True" | .word "False" | .word "None" => return ()
  | .mark "[" | .mark "(" => do
      match ← self .atom with
      -- left to the readers of assignments, which report these on their own
      | .list _ _ | .tuple _ _ | .generator _ _ => return ()
      | _ => stuck
  | _ => stuck

/-- A mistake at the sign after a value: an assignment where a comparison must have been meant, or a
walrus after something other than a name. -/
def assignmentMistake (start : Cursor) (value : Expr) : Reader Unit := do
  match ← next with
  | .mark "=" => do
      -- first a name before the sign, then anything else
      watch start (do
        let _ ← spelling
        mark "="
        let _ ← self .bitOr
        notBeforeMarks ["=", ":="]
        fail .assignmentForComparison start.line?)
      watch start (do
        if (← lookAhead (displayAhead self)).isSome then stuck
        let left ← self .bitOr
        mark "="
        let _ ← self .bitOr
        notBeforeMarks ["=", ":="]
        failAtValue self (.notAssignableHere left.kind) start (self .bitOr))
  | .mark ":=" => do
      advance
      let _ ← self .expression
      failAtValue self (.walrusTarget value.kind) start (self .expression)
  | _ => stuck

def named : Reader Expr := do
  if ← nextIsWalrus then walrus self
  else
    let start ← here
    let value ← self .expression
    watch (← here) (assignmentMistake self start value)
    notBeforeMarks [":="]
    return value

def starNamed : Reader Expr := do
  if ← acceptMark "*" then return .starred (← self .bitOr) .load
  else named self

end Levels

/-! ## String literals -/

def lineEnds (chars : List Char) : Nat :=
  chars.count '\n'

/-- The report of the reader of a field. What the lexer or a field further inside has found is told
as it is. -/
def Report.fromField (report : Report) : Report :=
  match report.origin with
  | .grammar => ⟨.inField report.fault, report.line, .field⟩
  | .lexer | .field => ⟨report.fault, report.line, .field⟩

inductive LiteralValue where
  | bytes (codes : List Nat)
  | text (parts : List Expr)

def LiteralValue.codes : LiteralValue → List Nat
  | .bytes codes => codes
  | .text _ => []

def LiteralValue.parts : LiteralValue → List Expr
  | .bytes _ => []
  | .text parts => parts

namespace Levels

open Reader

variable (self : Levels) (limit : Nat)

/-- The expression in a field of a literal that starts on the given line, read as if it stood in
parentheses; `left` is the literal from the expression on. -/
def readField (line : Nat) (body left chars : List Char) : Except Report Expr :=
  -- lines are counted from the start of the literal
  let line := line + lineEnds body - lineEnds left
  let tokens := { LexState.start with line }.tokens ('(' :: chars ++ [')'])
  match starExpressions self limit .plain (.start tokens) with
  | .ok value _ => .ok value
  | _ => .error ((starExpressions self limit).diagnose tokens).fromField

/-- The value of a literal on the given line, after one of the kind `previous`. -/
def literalValue (previous : Option LiteralKind) (line : Nat) (literal : StringLiteral) :
    Except Report LiteralValue := do
  -- texts and bytes cannot stand side by side
  let unmixed : Except Report Unit :=
    if previous.any fun kind => (kind == .bytes) != (literal.kind == .bytes) then
      .error (.ofFault .mixedLiterals)
    else .ok ()
  match literal.kind with
  | .bytes => do
      let codes ← (Literal.decodeBytes literal.raw literal.body).mapError fun fault =>
        { Report.ofFault fault with line := if fault = .nonAsciiBytes then some line else none }
      unmixed
      return .bytes codes
  | .text => do
      let points ← (Literal.decodeText literal.raw literal.body).mapError Report.ofFault
      unmixed
      return .text (Format.prependText points [])
  | .formatted => do
      -- the fields are looked at only when the kinds of the literals fit
      unmixed
      return .text (← Format.decode (readField self limit line literal.body) literal.raw literal.body)

def literalValues (previous : Option LiteralKind) :
    List (Nat × StringLiteral) → Except Report (List LiteralValue)
  | [] => .ok []
  | (line, literal) :: rest => do
      let value ← literalValue self limit previous line literal
      return value :: (← literalValues (some literal.kind) rest)

def joinParts : List (List Expr) → List Expr
  | [] => []
  | parts :: rest =>
      let more := joinParts rest
      match parts.getLast? with
      -- texts that meet where two literals are joined become one
      | some (.constant (.text points)) => parts.dropLast ++ Format.prependText points more
      | _ => parts ++ more

def combine (literals : List (Nat × StringLiteral)) : Except Report Expr := do
  let values ← literalValues self limit none literals
  let parts := joinParts (values.map (·.parts))
  if literals.all (·.2.kind == .bytes) then return .constant (.bytes (values.flatMap (·.codes)))
  else if literals.any (·.2.kind == .formatted) then return .formatted parts
  else match parts with
    | [value] => return value
    -- no parts are left of empty literals
    | _ => return .constant (.text [])

def stringLiteral : Reader (Nat × StringLiteral) := do
  let token ← peek
  match token.lexeme with
  | .string literal => do
      advance
      return (token.line, literal)
  | _ => stuck

def strings : Reader Expr := do
  let literals ← many1 limit stringLiteral
  match combine self limit literals with
  | .ok value => return value
  | .error report => failWith report

/-! ## Targets and comprehensions -/

def starTarget : Reader Expr := do
  let starred ← acceptMark "*"
  let value ← self .primary
  match value.asTarget? with
  | some target => return if starred then .starred target .store else target
  | none => stuck

def starTargets : Reader Expr := do
  let first ← starTarget self
  if ← nextIsMark "," then
    let others ← many limit (do mark ","; starTarget self)
    let _ ← acceptMark ","
    return .tuple (first :: others) .store
  else return first

/-- Where the first part stands that keeps items in a row from being targets. -/
def invalidPart (use : TargetUse) : Nat → Reader Expr → Reader Cursor
  | 0, _ => here
  | depth + 1, item => do
      let start ← here
      let value ← item
      if (value.invalidTarget? use).isNone then
        mark ","
        invalidPart use depth item
      else
        let stop ← here
        let place ← visit start (unwrapped (groupContent self limit) limit stop.index)
        visit place (match value with
          | .list _ _ | .tuple _ _ => do
              advance
              invalidPart use depth (starNamed self)
          | .starred _ _ => do
              if use = .deleting then here
              else
                advance
                invalidPart use depth (self .bitOr)
          | .compare _ _ _ => if use = .looping then invalidPart use depth (self .bitOr) else here
          | _ => here)

def failInTarget (use : TargetUse) (part : Expr) (start : Cursor) : Reader Unit := do
  let limit := start.rest.length
  let place ← visit start (plainly (invalidPart self limit use limit (star self)))
  fail (use.fault part.kind) place.line?

def targetMistake (use : TargetUse) : Reader Unit := do
  let start ← here
  match (← starExpressions self limit).invalidTarget? use with
  | some part => failInTarget self use part start
  | none => stuck

def loopTarget : Reader Expr :=
  orMistake
    (do
      word "for"
      let target ← starTargets self limit
      word "in"
      return target)
    (do
      word "for"
      targetMistake self limit .looping)

def nextIsClause : Reader Bool := do
  match ← next with
  | .word "for" | .word "async" => return true
  | _ => return false

def clause : Reader Clause := do
  let isAsync ← acceptWord "async"
  let target ← loopTarget self limit
  let source ← self .disjunction
  let conditions ← many limit (do word "if"; self .disjunction)
  return .mk target source conditions isAsync

def clauses : Reader (List Clause) :=
  many1 limit (clause self limit)

def unpackedElement (opening : String) : Reader Unit := do
  mark opening
  let start ← here
  mark "*"
  let _ ← self .expression
  let _ ← clauses self limit
  fail (.badDisplay .unpackedElement) start.line?

/-! ## Displays -/

/-- The rest of a display after its first item, which stood at `start`, through the closing bracket. -/
def displayRest (start : Cursor) (first : Expr) (closing : String) : Reader (List Expr) := do
  let others ← many limit (do mark ","; starNamed self)
  let comma ← acceptMark ","
  watch (← here) (do
    -- several elements of a comprehension, or one with a comma
    if closing = ")" || (others.isEmpty && !comma) then stuck
    let _ ← clauses self limit
    failAtValue self (.badDisplay .bareElements) start (starNamed self))
  mark closing
  return first :: others

def groupMistake : Reader Unit := do
  mark "("
  let start ← here
  let double ← acceptMark "**"
  if !double then mark "*"
  let _ ← self .expression
  mark ")"
  fail (.badDisplay (if double then .doubleStarredAlone else .starredAlone)) start.line?

def parenthesised : Reader Expr := do
  mark "("
  if ← acceptMark ")" then return .tuple [] .load
  else if ← nextIsWord "yield" then
    let value ← yielded self limit
    mark ")"
    return value
  else
    let start ← here
    let first ← starNamed self
    if ← nextIsMark "," then return .tuple (← displayRest self limit start first ")") .load
    -- only a tuple may hold an unpacked value
    else if first.isStarred then stuck
    else if ← nextIsClause then
      let found ← clauses self limit
      mark ")"
      return .generator first found
    else
      mark ")"
      return first

def bracketed : Reader Expr := do
  mark "["
  if ← acceptMark "]" then return .list [] .load
  else
    let start ← here
    let first ← starNamed self
    if !first.isStarred && (← nextIsClause) then
      let found ← clauses self limit
      mark "]"
      return .listComp first found
    else return .list (← displayRest self limit start first "]") .load

def valueMistake (colon : Cursor) : Reader Unit := do
  let start ← here
  if ← acceptMark "*" then
    let _ ← self .bitOr
    fail (.badDisplay .starredValue) start.line?
  else
    beforeMarks ["\x7d", ","]
    fail (.badDisplay .missingValue) colon.line?

def entryMistake : Reader Unit := do
  let start ← here
  let _ ← self .expression
  let colon ← here
  if ← acceptMark ":" then valueMistake self colon
  else failAtValue self (.badDisplay .missingColon) start (self .expression)

def dictItem : Reader DictItem := do
  if ← acceptMark "**" then return .spread (← self .bitOr)
  else
    let key ← self .expression
    mark ":"
    return .entry key (← self .expression)

def dictRest (first : DictItem) : Reader Expr := do
  let others ← many limit (do mark ","; dictItem self)
  let comma ← acceptMark ","
  watch (← here) (if comma then entryMistake self else stuck)
  mark "\x7d"
  return .dict (first :: others)

def setFrom (start : Cursor) (first : Expr) : Reader Expr := do
  if !first.isStarred && (← nextIsClause) then
    let found ← clauses self limit
    mark "\x7d"
    return .setComp first found
  else return .set (← displayRest self limit start first "\x7d")

def spreadFirst : Reader Expr := do
  let start ← here
  mark "**"
  let value ← self .bitOr
  watch (← here) (do
    let _ ← clauses self limit
    mark "\x7d"
    fail (.badDisplay .unpackedEntry) start.line?)
  dictRest self limit (.spread value)

def braced : Reader Expr := do
  mark "\x7b"
  let start ← here
  if ← acceptMark "\x7d" then return .dict []
  else if ← nextIsMark "**" then spreadFirst self limit
  -- a key can be neither unpacked nor bound, so this is a set
  else if (← nextIsMark "*") || (← nextIsWalrus) then setFrom self limit start (← starNamed self)
  else
    let first ← self .expression
    let colon ← here
    if ← acceptMark ":" then
      let value ← orMistake (self .expression) (valueMistake self colon)
      if ← nextIsClause then
        let found ← clauses self limit
        mark "\x7d"
        return .dictComp first value found
      else dictRest self limit (.entry first value)
    else
      -- the element was read without looking for this mistake, as it might have been a key
      watch colon (assignmentMistake self start first)
      setFrom self limit start first

def atom : Reader Expr := do
  match ← next with
  | .name _ => return .name (← identifier) .load
  | .number value => do
      advance
      return .constant (.number value)
  | .string _ => strings self limit
  | .word "True" => do
      advance
      return .constant (.bool true)
  | .word "False" => do
      advance
      return .constant (.bool false)
  | .word "None" => do
      advance
      return .constant .none
  | .mark "(" => orMistake (parenthesised self limit) (do
      watch (← here) (groupMistake self)
      unpackedElement self limit "(")
  | .mark "[" => orMistake (bracketed self limit) (unpackedElement self limit "[")
  | .mark "\x7b" => orMistake (braced self limit) (unpackedElement self limit "\x7b")
  | .mark "..." => do
      advance
      return .constant .ellipsis
  | _ => stuck

end Levels

end Refactory.Source
