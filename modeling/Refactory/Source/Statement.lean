import Refactory.Source.PatternReader

/-! Reading of statements.

The readers of compound statements take the reader of the statements in their blocks as a parameter;
`Stmt.read` ties the knot. A line of simple statements gives several statements, so readers of
statements give lists.
-/

set_option autoImplicit false

namespace Refactory.Source

open Reader

namespace StatementReader

def assigned (fuel : Nat) : Reader Expr := do
  if ← nextIsWord "yield" then Levels.yielded (Expr.read fuel) fuel
  else Levels.starExpressions (Expr.read fuel) fuel

def combinations : List (String × BinaryOperator) :=
  [("+=", .add), ("-=", .sub), ("*=", .mul), ("@=", .matMul), ("/=", .div), ("%=", .mod),
    ("&=", .bitAnd), ("|=", .bitOr), ("^=", .bitXor), ("<<=", .shiftLeft), (">>=", .shiftRight),
    ("**=", .pow), ("//=", .floorDiv)]

/-- An annotated target. It is simple if it is a name without parentheses. -/
def annotated (fuel : Nat) (start : Cursor) (value : Expr) : Reader Stmt := do
  mark ":"
  match value.asSingleTarget? with
  | none => stuck
  | some target => do
      let typeHint ← Expr.read fuel .expression
      let assignedValue ← attempt (do mark "="; assigned fuel)
      -- parentheses leave no trace in the tree, but the first token shows them
      let simple := match value, start.rest.map Token.lexeme with
        | .name _ _, .name _ :: _ => true
        | _, _ => false
      return .annAssign target typeHint assignedValue simple

/-- An equals sign, and what comes after it; `targets` hold the targets before, latest first. -/
def assignment (fuel : Nat) : Nat → List Expr → Expr → Reader Stmt
  | 0, _, _ => stuck
  | limit + 1, targets, value => do
      mark "="
      match value.asTarget? with
      | none => stuck
      | some target => do
          let found ← assigned fuel
          if ← nextIsMark "=" then match found with
            -- a yield can be assigned, but not assigned to
            | .yield _ | .yieldFrom _ => stuck
            | _ => assignment fuel limit (target :: targets) found
          else return .assign (target :: targets).reverse found

def combining (fuel : Nat) (value : Expr) : Reader Stmt := do
  match value.asSingleTarget? with
  | none => stuck
  | some target => do
      let op ← Levels.operator? combinations
      return .augAssign target op (← assigned fuel)

def yieldMistake (fuel : Nat) : Reader Unit := do
  let start ← here
  let _ ← Levels.yielded (Expr.read fuel) fuel
  mark "="
  fail .yieldAssigned start.line?

/-- The first target of a chain of assignments that cannot be one; `value` stands at `start`. -/
def chainMistake (fuel : Nat) : Nat → Expr → Cursor → Reader Unit
  | 0, _, _ => stuck
  | limit + 1, value, start => do
      mark "="
      match value.invalidTarget? .assigning with
      | some part => Levels.failInTarget (Expr.read fuel) .assigning part start
      | none => do
          let start ← here
          if ← nextIsWord "yield" then yieldMistake fuel
          else chainMistake fuel limit (← Levels.starExpressions (Expr.read fuel) fuel) start

def annotationFault (fuel : Nat) (fault : Fault) (start : Cursor) : Reader Unit := do
  mark ":"
  let _ ← Expr.read fuel .expression
  Levels.failAtValue (Expr.read fuel) fault start (Levels.starNamed (Expr.read fuel))

def annotationMistake (fuel : Nat) (start : Cursor) : Reader Unit := do
  watch start (do
    match ← Expr.read fuel .atom with
    | .list _ _ => annotationFault fuel (.notSingle .list) start
    | .tuple _ _ => annotationFault fuel (.notSingle .tuple) start
    | _ => stuck)
  watch start (do
    let _ ← Levels.starNamed (Expr.read fuel)
    mark ","
    let _ ← attempt (separated fuel (Levels.starNamed (Expr.read fuel)))
    let _ ← acceptMark ","
    annotationFault fuel (.notSingle .tuple) start)
  watch start (do
    let _ ← Expr.read fuel .expression
    annotationFault fuel .notAnnotatable start)

def assignmentMistake (fuel : Nat) (value : Expr) (start : Cursor) : Reader Unit := do
  let after ← here
  watch start (annotationMistake fuel start)
  watch after (chainMistake fuel fuel value start)
  let _ ← Levels.operator? combinations
  let _ ← assigned fuel
  Levels.failAtValue (Expr.read fuel) (.notCombinable value.kind) start
    (Levels.starExpressions (Expr.read fuel) fuel)

def expressionStatement (fuel : Nat) : Reader Stmt := do
  let start ← here
  let value ← Levels.starExpressions (Expr.read fuel) fuel
  let found ← attempt (orElse (annotated fuel start value)
    (orElse (assignment fuel fuel [] value) (combining fuel value)))
  match found with
  | some statement => return statement
  | none => do
      watch (← here) (assignmentMistake fuel value start)
      return .expression value

def dottedName (fuel : Nat) : Reader Spelling := do
  let first ← name
  extend fuel (fun outer => do
    mark "."
    return outer.dot (← name)) first

def asName : Reader (Option String) :=
  attempt (do word "as"; identifier)

def importNames (fuel : Nat) : Reader Stmt := do
  word "import"
  let names ← separated fuel (do
    let found ← dottedName fuel
    return (⟨found, ← asName⟩ : Alias))
  return .importNames names

def dots : Reader Nat := do
  if ← acceptMark "." then return 1
  else
    mark "..."
    return 3

def importedNames (fuel : Nat) : Reader (List Alias) :=
  separated fuel (do
    let found ← name
    return (⟨found, ← asName⟩ : Alias))

def importTargets (fuel : Nat) : Reader (List Alias) := do
  if ← acceptMark "(" then
    let names ← importedNames fuel
    let _ ← acceptMark ","
    mark ")"
    return names
  else if ← acceptMark "*" then return [⟨⟨"*", by decide⟩, none⟩]
  else
    let names ← importedNames fuel
    -- a comma at the end needs parentheses
    watch (← here) (do
      mark ","
      take .lineEnd
      fail .trailingComma none)
    notBeforeMarks [","]
    return names

def importFrom (fuel : Nat) : Reader Stmt := do
  word "from"
  let levels ← many fuel dots
  let source ← attempt (dottedName fuel)
  if levels.isEmpty && source.isNone then stuck
  word "import"
  return .importFrom source (← importTargets fuel) (levels.foldl Nat.add 0)

def raising (fuel : Nat) : Reader Stmt := do
  word "raise"
  match ← attempt (Expr.read fuel .expression) with
  | none => return .raising none none
  | some error => do
      let cause ← attempt (do word "from"; Expr.read fuel .expression)
      return .raising (some error) cause

def deletion (fuel : Nat) : Reader Stmt := do
  word "del"
  let targets ← separated fuel (do
    let value ← Expr.read fuel .primary
    match value.asDeleted? with
    | some target => return target
    | none => stuck)
  let _ ← acceptMark ","
  match ← next with
  -- the targets must take up the statement
  | .mark ";" | .lineEnd => return .del targets
  | _ => stuck

def assertion (fuel : Nat) : Reader Stmt := do
  word "assert"
  let test ← Expr.read fuel .expression
  let message ← attempt (do mark ","; Expr.read fuel .expression)
  return .assertion test message

def simple (fuel : Nat) : Reader Stmt := do
  match ← next with
  | .word "return" => do
      advance
      return .ret (← attempt (Levels.starExpressions (Expr.read fuel) fuel))
  | .word "import" => importNames fuel
  | .word "from" => importFrom fuel
  | .word "raise" => raising fuel
  | .word "pass" => do
      advance
      return .pass
  | .word "del" => orMistake (deletion fuel) (do
      advance
      Levels.targetMistake (Expr.read fuel) fuel .deleting)
  | .word "yield" => do
      watch (← here) (yieldMistake fuel)
      return .expression (← Levels.yielded (Expr.read fuel) fuel)
  | .word "assert" => assertion fuel
  | .word "break" => do
      advance
      return .breakLoop
  | .word "continue" => do
      advance
      return .continueLoop
  | .word "global" => do
      advance
      return .globalNames (← separated fuel identifier)
  | .word "nonlocal" => do
      advance
      return .nonlocalNames (← separated fuel identifier)
  | _ => expressionStatement fuel

def simpleLine (fuel : Nat) : Reader (List Stmt) := do
  let first ← simple fuel
  let others ← many fuel (do mark ";"; simple fuel)
  let _ ← acceptMark ";"
  take .lineEnd
  return first :: others

def headerColon : Reader Unit := do
  if ← acceptMark ":" then return ()
  else
    watch (← here) (do
      take .lineEnd
      fail (.expected .colon) none)
    stuck

variable (self : Reader (List Stmt)) (fuel : Nat)

/-- The block of a header on the given line: indented lines, or simple statements on the same
line. -/
def block (owner : BlockOwner) (line : Nat) : Reader (List Stmt) := do
  if ← accept .lineEnd then
    if ← accept .indent then
      let found ← many1 fuel self
      take .dedent
      return found.flatten
    else
      watch (← here) (fail (.missingBlock owner line) none)
      stuck
  else simpleLine fuel

def elseBlock : Reader (List Stmt) := do
  let line ← line
  word "else"
  requiredMark .colon
  block self fuel (.statement .elseWord) line

def optionalElse : Reader (List Stmt) := do
  return (← attempt (elseBlock self fuel)).getD []

def conditionBlock (header : BlockWord) : Reader (Expr × List Stmt) := do
  let line ← line
  word header.text
  let test ← Levels.named (Expr.read fuel)
  headerColon
  return (test, ← block self fuel (.statement header) line)

/-- Later conditions are the alternative of the first. -/
def nestConditions : List (Expr × List Stmt) → List Stmt → List Stmt
  | [], otherwise => otherwise
  | (test, body) :: rest, otherwise => [.ifElse test body (nestConditions rest otherwise)]

def ifStatement : Reader Stmt := do
  let (test, body) ← conditionBlock self fuel .ifWord
  let others ← many fuel (conditionBlock self fuel .elifWord)
  let otherwise ← optionalElse self fuel
  return .ifElse test body (nestConditions others otherwise)

def whileStatement : Reader Stmt := do
  let (test, body) ← conditionBlock self fuel .whileWord
  return .whileLoop test body (← optionalElse self fuel)

def forStatement (isAsync : Bool) : Reader Stmt := do
  let line ← line
  let target ← Levels.loopTarget (Expr.read fuel) fuel
  let source ← Levels.starExpressions (Expr.read fuel) fuel
  headerColon
  let body ← block self fuel (.statement .forWord) line
  return .forLoop isAsync target source body (← optionalElse self fuel)

def withTarget : Reader Expr := do
  word "as"
  let target ← Levels.starTarget (Expr.read fuel)
  -- what looks like a target may be the start of something longer
  beforeMarks [",", ")", ":"]
  return target

def withTargetMistake : Reader Unit := do
  word "as"
  let start ← here
  let value ← Expr.read fuel .expression
  beforeMarks [",", ")", ":"]
  match value.invalidTarget? .assigning with
  | some part => Levels.failInTarget (Expr.read fuel) .assigning part start
  | none => stuck

def withItem : Reader WithItem := do
  let manager ← Expr.read fuel .expression
  return ⟨manager, ← attempt (orMistake (withTarget fuel) (withTargetMistake fuel))⟩

def withItemsInParentheses : Reader (List WithItem) := do
  mark "("
  let items ← separated fuel (withItem fuel)
  let _ ← acceptMark ","
  mark ")"
  mark ":"
  return items

def withMistake : Reader Unit := do
  let item : Reader Unit := do
    let _ ← Expr.read fuel .expression
    let _ ← attempt (do word "as"; Levels.starTarget (Expr.read fuel))
    return ()
  orElse
    (do
      let _ ← separated fuel item
      take .lineEnd)
    (do
      mark "("
      let _ ← separated fuel item
      let _ ← acceptMark ","
      mark ")"
      take .lineEnd)
  fail (.expected .colon) none

def withStatement (isAsync : Bool) : Reader Stmt := do
  let line ← line
  word "with"
  let start ← here
  -- a parenthesis may enclose the items, or belong to the first of them
  let items ← match ← attempt (withItemsInParentheses fuel) with
    | some items => pure items
    | none => do
        match ← attempt (do
          let items ← separated fuel (withItem fuel)
          mark ":"
          return items) with
        | some items => pure items
        | none => do
            watch start (withMistake fuel)
            stuck
  return .withBlock isAsync items (← block self fuel (.statement .withWord) line)

def decorators : Reader (List Expr) :=
  many fuel (do
    mark "@"
    let value ← Levels.named (Expr.read fuel)
    take .lineEnd
    return value)

def functionDefinition (isAsync : Bool) (decorations : List Expr) : Reader Stmt := do
  let line ← line
  word "def"
  let name ← identifier
  requiredMark .opening
  let parameters ← Levels.parameters (Expr.read fuel) fuel ")"
  mark ")"
  let returns ← attempt (do mark "->"; Expr.read fuel .expression)
  requiredMark .colon
  let body ← block self fuel .function line
  return .functionDef isAsync name parameters body decorations returns

def classDefinition (decorations : List Expr) : Reader Stmt := do
  let line ← line
  word "class"
  let name ← identifier
  let found ← attempt (do
    mark "("
    let found ← attempt (Levels.arguments (Expr.read fuel) fuel)
    mark ")"
    return found.getD [])
  headerColon
  let body ← block self fuel .classBody line
  let found := found.getD []
  return .classDef name (found.filterMap (·.positional?)) (found.filterMap (·.keyword?)) body
    decorations

def handlerMistake : Reader Unit := do
  word "except"
  let after ← here
  let groups ← acceptMark "*"
  let error ← here
  watch error (do
    let _ ← Expr.read fuel .expression
    mark ","
    let _ ← separated fuel (Expr.read fuel .expression)
    let _ ← acceptMark ","
    let _ ← asName
    mark ":"
    Levels.failAtValue (Expr.read fuel) (.badHandlers .severalErrors) error (Expr.read fuel .expression))
  watch error (do
    let _ ← Expr.read fuel .expression
    let _ ← asName
    take .lineEnd
    fail (.expected .colon) none)
  watch after (do
    take .lineEnd
    fail (.expected .colon) none)
  if !groups then stuck
  if ← acceptMark ":" then fail (.badHandlers .missingErrors) none
  take .lineEnd
  fail (.badHandlers .missingErrors) none

def handlerBlock (groups : Bool) : Reader Handler := do
  let line ← line
  word "except"
  if groups then mark "*"
  let owner := BlockOwner.statement (if groups then .exceptGroupWord else .exceptWord)
  -- the handlers of groups must name their errors
  let bare ← if groups then pure false else acceptMark ":"
  if bare then
    return .mk none none (← block self fuel owner line)
  else
    let error ← Expr.read fuel .expression
    let name ← asName
    mark ":"
    return .mk (some error) name (← block self fuel owner line)

def handler (groups : Bool) : Reader Handler :=
  orMistake (handlerBlock self fuel groups) (handlerMistake fuel)

def mixedMistake (groups : Bool) : Reader Unit := do
  let _ ← handler self fuel groups
  let _ ← many fuel (simpleLine fuel)
  fail (.badHandlers .mixed) none

def finallyBlock : Reader (List Stmt) := do
  let line ← line
  word "finally"
  requiredMark .colon
  block self fuel (.statement .finallyWord) line

def tryStatement : Reader Stmt := do
  let line ← line
  word "try"
  requiredMark .colon
  let body ← block self fuel (.statement .tryWord) line
  watch (← here) (do
    match ← next with
    | .word "except" | .word "finally" => stuck
    | _ => fail (.badHandlers .missing) none)
  if ← nextIsWord "finally" then
    return .tryBlock false body [] [] (← finallyBlock self fuel)
  else
    let plain ← attempt (many1 fuel (handler self fuel false))
    -- all handlers are of one kind
    let handlers ← match plain with
      | some handlers => pure handlers
      | none => many1 fuel (handler self fuel true)
    watch (← here) (mixedMistake self fuel plain.isSome)
    let otherwise ← optionalElse self fuel
    let last ← attempt (finallyBlock self fuel)
    return .tryBlock plain.isNone body handlers otherwise (last.getD [])

def subject : Reader Expr := do
  let first ← Levels.starNamed (Expr.read fuel)
  if ← acceptMark "," then
    match ← attempt (separated fuel (Levels.starNamed (Expr.read fuel))) with
    | none => return .tuple [first] .load
    | some others => do
        let _ ← acceptMark ","
        return .tuple (first :: others) .load
  -- only a tuple may hold an unpacked value
  else if first.isStarred then stuck
  else return first

def case : Reader Case := do
  let line ← line
  take (.name ⟨"case", by decide⟩)
  let pattern ← Pattern.readOpen fuel
  let guard ← attempt (do word "if"; Levels.named (Expr.read fuel))
  headerColon
  return .mk pattern guard (← block self fuel (.statement .caseWord) line)

def matchStatement : Reader Stmt := do
  take (.name ⟨"match", by decide⟩)
  let value ← subject fuel
  mark ":"
  take .lineEnd
  take .indent
  let cases ← many1 fuel (case self fuel)
  take .dedent
  return .matchOn value cases

def matchMistake (start : Cursor) : Reader Unit := do
  take (.name ⟨"match", by decide⟩)
  let _ ← subject fuel
  headerColon
  take .lineEnd
  if ← nextIs .indent then stuck
  else fail (.missingBlock (.statement .matchWord) (start.line?.getD 0)) none

def statement : Reader (List Stmt) := do
  let one (reader : Reader Stmt) : Reader (List Stmt) := do return [← reader]
  match ← next with
  | .word "def" => one (functionDefinition self fuel false [])
  | .mark "@" => do
      let decorations ← decorators fuel
      match ← next with
      | .word "class" => one (classDefinition self fuel decorations)
      | .word "async" => do
          advance
          one (functionDefinition self fuel true decorations)
      | _ => one (functionDefinition self fuel false decorations)
  | .word "async" => do
      advance
      match ← next with
      | .word "def" => one (functionDefinition self fuel true [])
      | .word "with" => one (withStatement self fuel true)
      | _ => one (forStatement self fuel true)
  | .word "if" => one (ifStatement self fuel)
  | .word "class" => one (classDefinition self fuel [])
  | .word "with" => one (withStatement self fuel false)
  | .word "for" => one (forStatement self fuel false)
  | .word "try" => one (tryStatement self fuel)
  | .word "while" => one (whileStatement self fuel)
  -- this word may also be a name
  | .name ⟨"match", _⟩ => do
      let start ← here
      match ← attempt (matchStatement self fuel) with
      | some found => return [found]
      | none => do
          watch start (matchMistake fuel start)
          simpleLine fuel
  | _ => simpleLine fuel

end StatementReader

def Stmt.read : Nat → Reader (List Stmt)
  | 0 => stuck
  | fuel + 1 => StatementReader.statement (Stmt.read fuel) fuel

end Refactory.Source
