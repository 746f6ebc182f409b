import Refactory.Source.Expression

/-! Reading of patterns, the left sides of cases.

The readers take the reader of whole patterns as a parameter, for the parts inside brackets and after
signs; `Pattern.read` ties the knot.
-/

set_option autoImplicit false

namespace Refactory.Source

open Reader

def Number.isImaginary : Number → Bool
  | .imaginary _ => true
  | _ => false

def numberToken : Reader Number := do
  match ← next with
  | .number value => do
      advance
      return value
  | _ => stuck

namespace PatternReader

def signedNumber : Reader Expr := do
  let negative ← acceptMark "-"
  let start ← here
  let value ← numberToken
  let first := if negative then Expr.unary .minus (.constant (.number value))
    else .constant (.number value)
  -- a complex number: a real part, then an imaginary one
  let sum (op : BinaryOperator) : Reader Expr := do
    advance
    if value.isImaginary then fail (.badPattern (.number .real)) start.line?
    let after ← here
    let second ← numberToken
    if !second.isImaginary then fail (.badPattern (.number .imaginary)) after.line?
    return .binary first op (.constant (.number second))
  match ← next with
  | .mark "+" => sum .add
  | .mark "-" => sum .sub
  | _ => return first

def dotted (limit : Nat) : Reader Expr := do
  let first ← identifier
  extend limit (fun value => do
    mark "."
    return .attribute value (← identifier) .load) (.name first .load)

def attributeOnly (limit : Nat) : Reader Expr := do
  match ← dotted limit with
  | .attribute value attr context => return .attribute value attr context
  | _ => stuck

def literal (fuel : Nat) : Reader Expr := do
  match ← next with
  | .number _ | .mark "-" => signedNumber
  | .string _ => Levels.strings (Expr.read fuel) fuel
  | .word "None" => do
      advance
      return .constant .none
  | .word "True" => do
      advance
      return .constant (.bool true)
  | .word "False" => do
      advance
      return .constant (.bool false)
  | _ => stuck

def ofLiteral : Expr → Pattern
  | .constant .none => .singleton .none
  | .constant (.bool value) => .singleton (.bool value)
  | value => .value value

def wildcard : Spelling := ⟨"_", by decide⟩

def captureName : Reader String := do
  let found ← spelling
  if found.text = "_" then stuck
  -- what follows would make it a value, a class or a keyword
  notBeforeMarks [".", "(", "="]
  return found.normal.text

variable (self : Reader Pattern) (fuel : Nat)

def maybeStar : Reader Pattern := do
  if ← acceptMark "*" then
    if ← accept (.name wildcard) then return .star none
    else return .star (some (← captureName))
  else self

def isStar : Pattern → Bool
  | .star _ => true
  | _ => false

def sequenceRest (first : Pattern) : Reader Pattern := do
  match ← attempt (separated fuel (maybeStar self)) with
  | none => return .sequence [first]
  | some others => do
      let _ ← acceptMark ","
      return .sequence (first :: others)

def parenthesised : Reader Pattern := do
  mark "("
  if ← acceptMark ")" then return .sequence []
  else
    let first ← maybeStar self
    if ← acceptMark "," then
      let whole ← sequenceRest self fuel first
      mark ")"
      return whole
    else if isStar first then stuck
    else
      mark ")"
      return first

def bracketed : Reader Pattern := do
  mark "["
  if ← acceptMark "]" then return .sequence []
  else
    let items ← separated fuel (maybeStar self)
    let _ ← acceptMark ","
    mark "]"
    return .sequence items

def keyValue : Reader (Expr × Pattern) := do
  let key ← orElse (literal fuel) (attributeOnly fuel)
  mark ":"
  return (key, ← self)

def mappingName : Reader String := do
  mark "**"
  captureName

def braced : Reader Pattern := do
  mark "\x7b"
  if ← acceptMark "\x7d" then return .mapping [] [] none
  else
    let items ← attempt (separated fuel (keyValue self fuel))
    let rest ← attempt (do
      if items.isSome then mark ","
      mappingName)
    let _ ← acceptMark ","
    mark "\x7d"
    -- a comma alone is not enough
    if items.isNone && rest.isNone then stuck
    let found := items.getD []
    return .mapping (found.map (·.1)) (found.map (·.2)) rest

def keywordPattern : Reader (String × Pattern) := do
  let name ← identifier
  mark "="
  return (name, ← self)

def positionalPattern : Reader Pattern := do
  if (← lookAhead (do let _ ← spelling; mark "=")).isSome then stuck else self

def orderMistake : Reader Unit := do
  mark ","
  let start ← here
  let _ ← separated fuel (positionalPattern self)
  failAt (.badPattern .positionalOrder) start (discard self) self

def construct (callee : Expr) : Reader Pattern := do
  if ← acceptMark ")" then return .construct callee [] [] []
  else
    let positional ← attempt (separated fuel (positionalPattern self))
    let keywords ← attempt (do
      if positional.isSome then mark ","
      separated fuel (keywordPattern self))
    if positional.isNone && keywords.isNone then stuck
    watch (← here) (if keywords.isSome then orderMistake self fuel else stuck)
    let _ ← acceptMark ","
    mark ")"
    let found := keywords.getD []
    return .construct callee (positional.getD []) (found.map (·.1)) (found.map (·.2))

def named : Reader Pattern := do
  if ← accept (.name wildcard) then return .capture none none
  else match ← attempt captureName with
    | some name => return .capture none (some name)
    | none => do
        let value ← dotted fuel
        if ← acceptMark "(" then construct self fuel value
        else match value with
          | .attribute _ _ _ => do
              notBeforeMarks [".", "="]
              return .value value
          | _ => stuck

def closed : Reader Pattern := do
  match ← next with
  | .name _ => named self fuel
  | .mark "(" => parenthesised self fuel
  | .mark "[" => bracketed self fuel
  | .mark "\x7b" => braced self fuel
  | _ => return ofLiteral (← literal fuel)

def alternative : Reader Pattern := do
  let first ← closed self fuel
  let others ← many fuel (do mark "|"; closed self fuel)
  if others.isEmpty then return first else return .alternatives (first :: others)

def nameMistake : Reader Unit := do
  word "as"
  let start ← here
  match ← next with
  | .name found =>
      if found.text = "_" then fail (.badPattern .wildcardTarget) start.line? else stuck
  | _ => do
      let _ ← Expr.read fuel .expression
      Levels.failAtValue (Expr.read fuel) (.badPattern .invalidTarget) start (Expr.read fuel .expression)

def whole : Reader Pattern := do
  let found ← alternative self fuel
  match ← attempt (do word "as"; captureName) with
  | some name => return .capture (some found) (some name)
  | none => do
      watch (← here) (nameMistake fuel)
      return found

end PatternReader

def Pattern.read : Nat → Reader Pattern
  | 0 => stuck
  | fuel + 1 => PatternReader.whole (Pattern.read fuel) fuel

/-- The pattern of a case, where a sequence needs no brackets. -/
def Pattern.readOpen (fuel : Nat) : Reader Pattern := do
  let first ← PatternReader.maybeStar (Pattern.read fuel)
  if ← acceptMark "," then PatternReader.sequenceRest (Pattern.read fuel) fuel first
  else if PatternReader.isStar first then stuck
  else return first

end Refactory.Source
