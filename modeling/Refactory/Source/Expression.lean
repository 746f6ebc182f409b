import Refactory.Source.Atom

/-! Reading of expressions: calls, subscripts, operators and functions without a name.

`Expr.read` ties the knot between the levels.
-/

set_option autoImplicit false

namespace Refactory.Source

def FormerStatement.named? (name : String) : Option FormerStatement :=
  [FormerStatement.print, .exec].find? (·.text == name)

def Expr.isFormerStatement : Expr → Bool
  | .name id _ => (FormerStatement.named? id).isSome
  | _ => false

def Parameter.asPositionalOnly : Parameter → Parameter
  | .mk _ name typeHint value => .mk .positionalOnly name typeHint value

/-! ## Calls and subscripts -/

inductive Argument where
  | positional (value : Expr)
  | keyword (keyword : Keyword)

def Argument.positional? : Argument → Option Expr
  | .positional value => some value
  | .keyword _ => none

def Argument.keyword? : Argument → Option Keyword
  | .positional _ => none
  | .keyword found => some found

def Argument.unpacksMapping : Argument → Bool
  | .keyword (.mk none _) => true
  | _ => false

namespace Levels

open Reader

variable (self : Levels) (limit : Nat)

def positionalArgument : Reader Argument := do
  if ← acceptMark "*" then return .positional (.starred (← self .expression) .load)
  else
    let value ← if ← nextIsWalrus then walrus self else do
      let value ← self .expression
      notBeforeMarks [":="]
      pure value
    -- before an equals sign it is the name of a keyword argument
    notBeforeMarks ["="]
    return .positional value

/-- A keyword argument that is none: its left side is not a name. -/
def keywordMistake (start : Cursor) : Reader Unit := do
  match ← next with
  | .word "True" | .word "False" | .word "None" => do
      let value ← self .atom
      mark "="
      fail (.notAssignable value.kind) start.line?
  | _ => do
      if (← lookAhead (do let _ ← spelling; mark "=")).isSome then
        -- a keyword argument with the clauses of a generator
        let _ ← spelling
        mark "="
        let _ ← self .expression
        let _ ← clauses self limit
        fail .assignmentForComparison start.line?
      else
        let _ ← self .expression
        mark "="
        failAtValue self (.badArguments .keywordExpression) start (self .expression)

def namedArgument : Reader Argument := do
  let name ← identifier
  mark "="
  return .keyword (.mk (some name) (← self .expression))

def keywordOrStarred : Reader Argument := do
  let start ← here
  watch start (keywordMistake self limit start)
  if ← acceptMark "*" then return .positional (.starred (← self .expression) .load)
  else namedArgument self

def keywordOrMapping : Reader Argument := do
  let start ← here
  watch start (keywordMistake self limit start)
  if ← acceptMark "**" then return .keyword (.mk none (← self .expression))
  else namedArgument self

/-- Keyword arguments: unpacked sequences may stand among them until a mapping is unpacked. -/
def keywordArguments : Reader (List Argument) := do
  match ← attempt (separated limit (keywordOrStarred self limit)) with
  | none => separated limit (keywordOrMapping self limit)
  | some first => do
      let second ← attempt (do mark ","; separated limit (keywordOrMapping self limit))
      return first ++ second.getD []

def argumentList : Reader (List Argument) := do
  match ← attempt (separated limit (positionalArgument self)) with
  | none => keywordArguments self limit
  | some first => do
      let second ← attempt (do mark ","; keywordArguments self limit)
      return first ++ second.getD []

def lastPositional : Reader Cursor := do
  let first ← here
  let _ ← positionalArgument self
  extend limit (fun _ => do
    mark ","
    let start ← here
    let _ ← positionalArgument self
    return start) first

def argumentMistake (found : List Argument) (start : Cursor) : Reader Unit := do
  let after ← here
  watch after (do
    mark ","
    mark "*"
    fail (.badArguments .unpackingOrder) start.line?)
  watch after (do
    let _ ← clauses self limit
    match found with
    | [.keyword (.mk (some _) _)] => fail .assignmentForComparison start.line?
    | _ => stuck)
  watch start (do
    let last ← lastPositional self limit
    let _ ← clauses self limit
    -- a generator alone may do without parentheses, and an unpacked value is no generator
    match found with
    | [.positional value] => do
        if value.isStarred then stuck
        mark ","
    | _ => if (found.filterMap (·.positional?)).length < 2 then stuck
    failAtValue self (.badArguments .bareGenerator) last (self .expression))
  watch after (do
    mark ","
    let argument ← here
    let _ ← self .expression
    let _ ← clauses self limit
    failAtValue self (.badArguments .bareGenerator) argument (self .expression))
  watch after (do
    mark ","
    let _ ← argumentList self limit
    -- an argument by position after others
    let unpacked := found.any (·.unpacksMapping)
    fail (.badArguments (if unpacked then .afterUnpacking else .afterKeyword)) none)

def arguments : Reader (List Argument) := do
  let start ← here
  let found ← argumentList self limit
  let after ← here
  let _ ← acceptMark ","
  if ← nextIsMark ")" then return found
  else
    watch after (argumentMistake self limit found start)
    stuck

def callArguments : Reader (List Argument) := do
  let start ← here
  let found ← argumentList self limit
  let after ← here
  -- one argument with clauses behind it is a generator
  let generator ← match found with
    | [.positional value] =>
        if value.isStarred then pure none
        else attempt (do
          let found ← clauses self limit
          beforeMarks [")"]
          return Expr.generator value found)
    | _ => pure none
  match generator with
  | some value => return [.positional value]
  | none => do
      let _ ← acceptMark ","
      if ← nextIsMark ")" then return found
      else
        watch after (argumentMistake self limit found start)
        stuck

def optionalExpression : Reader (Option Expr) :=
  attempt (self .expression)

def sliceFrom (lower : Option Expr) : Reader Expr := do
  mark ":"
  let upper ← optionalExpression self
  let step ← if ← acceptMark ":" then optionalExpression self else pure none
  return .slice lower upper step

def sliceItem : Reader Expr := do
  if ← nextIsMark ":" then sliceFrom self none
  else if ← nextIsWalrus then walrus self
  else if ← acceptMark "*" then return .starred (← self .expression) .load
  else
    let start ← here
    let value ← self .expression
    if ← nextIsMark ":" then sliceFrom self (some value)
    else
      watch (← here) (assignmentMistake self start value)
      notBeforeMarks [":="]
      return value

/-- What stands between the brackets of a subscript. A comma or a star makes a tuple. -/
def slices : Reader Expr := do
  let first ← sliceItem self
  if first.isStarred || (← nextIsMark ",") then
    let others ← many limit (do mark ","; sliceItem self)
    let _ ← acceptMark ","
    return .tuple (first :: others) .load
  else return first

def trailer (value : Expr) : Reader Expr := do
  match ← next with
  | .mark "." => do
      advance
      return .attribute value (← identifier) .load
  | .mark "(" => do
      -- as the only argument of a call, a generator needs no parentheses of its own
      watch (← here) (unpackedElement self limit "(")
      advance
      if ← acceptMark ")" then return .call value [] []
      else
        let found ← callArguments self limit
        mark ")"
        return .call value (found.filterMap (·.positional?)) (found.filterMap (·.keyword?))
  | .mark "[" => do
      advance
      let index ← slices self limit
      mark "]"
      return .subscript value index .load
  | _ => stuck

def primary : Reader Expr := do
  extend limit (trailer self limit) (← atom self limit)

/-! ## Operators -/

def awaited : Reader Expr := do
  if ← acceptWord "await" then return .await (← primary self limit)
  else primary self limit

def power : Reader Expr := do
  let base ← awaited self limit
  match ← attempt (do mark "**"; self .factor) with
  | some exponent => return .binary base .pow exponent
  | none => return base

def signs : List (String × UnaryOperator) := [("+", .plus), ("-", .minus), ("~", .invert)]

def factor : Reader Expr := do
  match ← next with
  | .mark spelling => match signs.lookup spelling with
      | some op => do
          advance
          return .unary op (← self .factor)
      | none => power self limit
  | _ => power self limit

/-- The binary operators of equal strength, from the weakest on. -/
def binaryOperators : List (List (String × BinaryOperator)) :=
  [[("|", .bitOr)], [("^", .bitXor)], [("&", .bitAnd)], [("<<", .shiftLeft), (">>", .shiftRight)],
    [("+", .add), ("-", .sub)],
    [("*", .mul), ("/", .div), ("//", .floorDiv), ("%", .mod), ("@", .matMul)]]

def operator? {Op : Type} (ops : List (String × Op)) : Reader Op := do
  match ← next with
  | .mark spelling => match ops.lookup spelling with
      | some op => do
          advance
          return op
      | none => stuck
  | _ => stuck

def binary : List (List (String × BinaryOperator)) → Reader Expr
  | [] => factor self limit
  | ops :: tighter => do
      let first ← binary tighter
      extend limit (fun left => do
        let op ← operator? ops
        return .binary left op (← binary tighter)) first

def bitOr : Reader Expr := binary self limit binaryOperators

def comparisonMarks : List (String × Comparison) :=
  [("==", .equal), ("!=", .notEqual), ("<", .less), ("<=", .lessEqual), (">", .greater),
    (">=", .greaterEqual)]

def comparisonOperator : Reader Comparison := do
  match ← next with
  | .word "in" => do
      advance
      return .isIn
  | .word "not" => do
      advance
      word "in"
      return .notIn
  | .word "is" => do
      advance
      if ← acceptWord "not" then return .isNot else return .is
  | _ => operator? comparisonMarks

def comparison : Reader Expr := do
  let left ← bitOr self limit
  let others ← many limit (do
    let op ← comparisonOperator
    return (op, ← bitOr self limit))
  if others.isEmpty then return left
  else return .compare left (others.map (·.1)) (others.map (·.2))

def inversion : Reader Expr := do
  if ← acceptWord "not" then return .unary .not (← self .inversion)
  else comparison self limit

def joined (op : BoolOperator) (joint : String) (operand : Reader Expr) : Reader Expr := do
  let first ← operand
  let others ← many limit (do word joint; operand)
  if others.isEmpty then return first else return .boolean op (first :: others)

def conjunction : Reader Expr := joined limit .and "and" (inversion self limit)

def disjunction : Reader Expr := joined limit .or "or" (conjunction self limit)

/-! ## Parameters -/

/-- A parameter and what must follow it: a comma, or the end of the parameters. -/
def parameterEnd (closing : String) : Reader Unit := do
  if ← acceptMark "," then return () else beforeMarks [closing]

def parameterName (closing : String) : Reader (String × Option Expr) := do
  let name ← identifier
  -- the parameters of a lambda have no annotations
  if closing ≠ ")" then return (name, none)
  else if ← acceptMark ":" then return (name, some (← self .expression))
  else return (name, none)

def defaultValue (equals : Cursor) : Reader Expr :=
  orMistake (self .expression) (do
    beforeMarks [")", ","]
    fail (.badParameters .missingDefault) equals.line?)

def plainParameter (closing : String) (kind : ParameterKind) : Reader Parameter := do
  let (name, typeHint) ← parameterName self closing
  parameterEnd closing
  return .mk kind name typeHint none

def defaultParameter (closing : String) (kind : ParameterKind) : Reader Parameter := do
  let (name, typeHint) ← parameterName self closing
  let equals ← here
  mark "="
  let value ← defaultValue self equals
  parameterEnd closing
  return .mk kind name typeHint (some value)

def anyParameter (closing : String) (kind : ParameterKind) : Reader Parameter := do
  let (name, typeHint) ← parameterName self closing
  let equals ← here
  let value ← if ← acceptMark "=" then some <$> defaultValue self equals else pure none
  parameterEnd closing
  return .mk kind name typeHint value

/-- The parameter that collects the positional rest; its annotation may be unpacked. -/
def restParameter (closing : String) : Reader Parameter :=
  orElse (plainParameter self closing .restPositional) (do
    let name ← identifier
    if closing ≠ ")" then stuck
    mark ":"
    let typeHint ← star self
    parameterEnd closing
    return .mk .restPositional name (some typeHint) none)

def mappingMistake (closing : String) : Reader Unit := do
  mark "**"
  let _ ← parameterName self closing
  let after ← here
  if ← acceptMark "=" then fail (.badParameters .mappingDefault) after.line?
  mark ","
  let after ← here
  orElse
    (do
      let _ ← parameterName self closing
      return ())
    (beforeMarks ["*", "**", "/"])
  fail (.badParameters .afterMapping) after.line?

def mappingParameter (closing : String) : Reader (List Parameter) := do
  watch (← here) (mappingMistake self closing)
  mark "**"
  return [← plainParameter self closing .restKeyword]

def bareStarEnd (closing : String) : Reader Unit := do
  if ← acceptMark "," then return ()
  else
    let _ ← plainParameter self closing .restPositional
    return ()

def starMistake (closing : String) : Reader Unit := do
  let start ← here
  watch start (do
    mark "*"
    if ← acceptMark "," then beforeMarks [closing, "**"] else beforeMarks [closing]
    fail (.badParameters .bareStar) (if closing = ")" then start.line? else none))
  watch start (do
    mark "*"
    let _ ← parameterName self closing
    let after ← here
    mark "="
    fail (.badParameters .restDefault) after.line?)
  -- a second star, after the parameters of the first
  mark "*"
  bareStarEnd self closing
  let _ ← many limit (anyParameter self closing .keywordOnly)
  let second ← here
  mark "*"
  bareStarEnd self closing
  fail (.badParameters .starTwice) second.line?

def starParameters (closing : String) : Reader (List Parameter) := do
  watch (← here) (starMistake self limit closing)
  if ← acceptMark "*" then
    let found ← if ← acceptMark "," then
        many1 limit (anyParameter self closing .keywordOnly)
      else do
        let rest ← restParameter self closing
        let others ← many limit (anyParameter self closing .keywordOnly)
        pure (rest :: others)
    let mapping ← attempt (mappingParameter self closing)
    return found ++ mapping.getD []
  else mappingParameter self closing

def slash (closing : String) : Reader Unit := do
  mark "/"
  parameterEnd closing

def slashed (closing : String) : Reader Unit := do
  let _ ← many1 limit (anyParameter self closing .positional)
  slash closing

def defaultMistake (closing : String) : Reader Unit := do
  let _ ← many limit (plainParameter self closing .positional)
  let _ ← many1 limit (defaultParameter self closing .positional)
  let _ ← attempt (slash closing)
  let after ← here
  let _ ← plainParameter self closing .positional
  fail (.badParameters .defaultOrder) after.line?

def groupedMistake (closing : String) : Reader Unit := do
  let _ ← many limit (plainParameter self closing .positional)
  let start ← here
  mark "("
  if closing = ")" then
    let _ ← many1 limit (plainParameter self ")" .positional)
    let _ ← acceptMark ","
    mark ")"
    fail (.badParameters .parenthesised) start.line?
  else
    let _ ← separated limit identifier
    let _ ← acceptMark ","
    mark ")"
    fail (.badParameters .lambdaParenthesised) start.line?

def slashMistake (closing : String) : Reader Unit := do
  let start ← here
  let others := many limit (anyParameter self closing .positional)
  watch start (do
    mark "/"
    mark ","
    fail (.badParameters .slashFirst) start.line?)
  watch start (do
    slashed self limit closing
    let _ ← others
    let second ← here
    mark "/"
    fail (.badParameters .slashTwice) second.line?)
  watch start (do
    let _ ← attempt (slashed self limit closing)
    let _ ← others
    mark "*"
    bareStarEnd self closing
    let _ ← others
    let late ← here
    mark "/"
    fail (.badParameters .slashAfterStar) late.line?)
  let _ ← many1 limit (anyParameter self closing .positional)
  mark "/"
  let after ← here
  mark "*"
  fail (.badParameters .slashBesideStar) after.line?

def parameterMistake (closing : String) (start : Cursor) : Reader Unit := do
  notBeforeMarks [closing]
  watch start (defaultMistake self limit closing)
  watch start (groupedMistake self limit closing)
  watch start (slashMistake self limit closing)

def parameters (closing : String) : Reader (List Parameter) := do
  let start ← here
  let plain ← many limit (plainParameter self closing .positional)
  let valued ← many limit (defaultParameter self closing .positional)
  let leading := plain ++ valued
  let slashed ← if leading.isEmpty then pure none else attempt (slash closing)
  let found ← match slashed with
    | none => pure leading
    | some _ => do
        -- after a default no parameter goes without one, on either side of the slash
        let more ← if valued.isEmpty then many limit (plainParameter self closing .positional)
          else pure []
        let moreValued ← many limit (defaultParameter self closing .positional)
        pure (leading.map Parameter.asPositionalOnly ++ more ++ moreValued)
  let starred ← attempt (starParameters self limit closing)
  watch (← here) (parameterMistake self limit closing start)
  return found ++ starred.getD []

/-! ## Whole expressions -/

def lambda : Reader Expr := do
  word "lambda"
  let found ← parameters self limit ":"
  mark ":"
  return .lambda found (← self .expression)

/-- Two expressions side by side inside brackets: a comma must have been forgotten. -/
def commaMistake (start : Cursor) (value : Expr) : Reader Unit := do
  match start.rest.map Token.lexeme with
  -- a name before a string looks like a misspelt letter of a literal
  | .name _ :: .string _ :: _ => stuck
  | .name spelling :: _ => if softWords.contains spelling.text then stuck
  | _ => pure ()
  -- mistakes in the second expression are not looked for
  let _ ← plainly (self .expression)
  if value.isFormerStatement || (← here).depth = 0 then stuck
  else failAtValue self .missingComma start (self .disjunction)

def formerStatementMistake (start : Cursor) : Reader Unit := do
  match FormerStatement.named? (← spelling).text, ← nextIsMark "(" with
  | some callee, false => do
      let _ ← starExpressions self limit
      fail (.missingParentheses callee) start.line?
  | _, _ => stuck

def conditionalRest (start : Cursor) (body : Expr) : Reader Expr := do
  word "if"
  let test ← self .disjunction
  watch (← here) (do
    match ← next with
    -- before a colon the condition may be that of a statement
    | .word "else" | .mark ":" => stuck
    | _ => failAtValue self .missingElse start (self .disjunction))
  word "else"
  return .conditional test body (← self .expression)

def expression : Reader Expr := do
  if ← nextIsWord "lambda" then lambda self limit
  else
    let start ← here
    let value ← disjunction self limit
    watch (← here) (commaMistake self start value)
    watch start (formerStatementMistake self limit start)
    match ← attempt (conditionalRest self start value) with
    | some whole => return whole
    | none => return value

def readAt : Level → Reader Expr
  | .expression => expression self limit
  | .disjunction => disjunction self limit
  | .inversion => inversion self limit
  | .bitOr => bitOr self limit
  | .factor => factor self limit
  | .primary => primary self limit
  | .atom => atom self limit

end Levels

def Expr.read : Nat → Levels
  | 0, _ => Reader.stuck
  | fuel + 1, level => Levels.readAt (Expr.read fuel) fuel level

end Refactory.Source
