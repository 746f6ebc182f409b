import Refactory.Value.Fault

/-! Arithmetic and order of dynamic values.

An operation on an integer and a double is carried out on doubles; comparisons are exact. Texts and
lists are joined by addition and repeated by multiplication.
-/

set_option autoImplicit false

namespace Refactory

namespace Number

/-- The number as a double; integers beyond the largest double have none. -/
def toFloat : Number → Except ValueFault Float
  | .float value => .ok value
  | .int value => match Double.ofInt? value with
      | some found => .ok found
      | none => .error .integerTooLarge

def combine (onInts : Int → Int → Int) (onFloats : Float → Float → Float) :
    Number → Number → Except ValueFault Number
  | .int left, .int right => .ok (.int (onInts left right))
  | left, right => do return .float (onFloats (← left.toFloat) (← right.toFloat))

def divide : Number → Number → Except ValueFault Number
  | .int left, .int right =>
      if right = 0 then .error (.zeroDivisor false)
      else match Double.ofQuotient? left right with
        | some found => .ok (.float found)
        | none => .error .quotientTooLarge
  | left, right => do
      let left ← left.toFloat
      let right ← right.toFloat
      if right == 0 then throw (.zeroDivisor true) else return .float (left / right)

end Number

namespace Value

def arithmetic (operator : Operator) (apply : Number → Number → Except ValueFault Number)
    (left right : Value) : Except ValueFault Value :=
  match left.number?, right.number? with
  | some first, some second => (apply first second).map ofNumber
  | _, _ => .error (.unsupported operator left.kind right.kind)

def add : Value → Value → Except ValueFault Value
  | .text left, .text right => .ok (.text (left ++ right))
  | .list left, .list right => .ok (.list (left ++ right))
  | .text _, right => .error (.notConcatenable .text right.kind)
  | .list _, right => .error (.notConcatenable .list right.kind)
  | left, right => arithmetic .add (Number.combine (· + ·) (· + ·)) left right

def subtract : Value → Value → Except ValueFault Value :=
  arithmetic .subtract (Number.combine (· - ·) (· - ·))

/-- The largest size of a sequence, and the largest count by which one can be repeated. -/
def sizeLimit : Int := 9223372036854775807

def repeated (sequence count : Value) : Except ValueFault Value :=
  match count.number? with
  | some (.int times) =>
      if times < -sizeLimit - 1 || sizeLimit < times then .error .repetitionTooLarge
      else match sequence with
        -- a count below one leaves nothing of the sequence
        | .text value =>
            if sizeLimit < value.length * times then .error .textTooLong
            else .ok (.text (String.join (List.replicate times.toNat value)))
        | .list items =>
            if sizeLimit < items.length * times then .error .outOfMemory
            else .ok (.list (List.replicate times.toNat items).flatten)
        | _ => .error (.unsupported .multiply sequence.kind count.kind)
  | _ => .error (.notRepeatable count.kind)

def multiply : Value → Value → Except ValueFault Value
  | .text left, right => repeated (.text left) right
  | .list left, right => repeated (.list left) right
  -- the sequence may stand on either side
  | left, .text right => repeated (.text right) left
  | left, .list right => repeated (.list right) left
  | left, right => arithmetic .multiply (Number.combine (· * ·) (· * ·)) left right

def divide : Value → Value → Except ValueFault Value :=
  arithmetic .divide Number.divide

def compareWith (relation : Relation) (left : Value) (right : Int) : Except ValueFault Bool :=
  match left.number? with
  | some number => .ok ((number.compare? (.int right)).any relation.holds)
  | Option.none => .error (.incomparable relation left.kind .int)

def isAtLeast (bound : Int) (value : Value) : Except ValueFault Bool :=
  match value.number? with
  | some number => .ok (((Number.int bound).compare? number).any Relation.atMost.holds)
  | Option.none => .error (.incomparable .atMost .int value.kind)

def isZero (value : Value) : Bool :=
  value.equals (.int 0)

def members : Value → Except ValueFault (List Value)
  | .text value => .ok (characters value)
  | .list items => .ok items
  | .dict entries => .ok (entries.map (·.1.value))
  | value => .error (.notIterable value.kind)

end Value

end Refactory
