import Refactory.Value.Basic

/-! What can go wrong in an operation on dynamic values, and how it is worded. -/

set_option autoImplicit false

namespace Refactory

inductive Operator where
  | add
  | subtract
  | multiply
  | divide
  deriving DecidableEq, Repr

def Operator.symbol : Operator → String
  | .add => "+"
  | .subtract => "-"
  | .multiply => "*"
  | .divide => "/"

inductive Relation where
  | less
  | atMost
  | greater
  deriving DecidableEq, Repr

def Relation.symbol : Relation → String
  | .less => "<"
  | .atMost => "<="
  | .greater => ">"

def Relation.holds : Relation → Ordering → Bool
  | .less, order => order.isLT
  | .atMost, order => order.isLE
  | .greater, order => order.isGT

inductive ValueFault where
  | unsupported (operator : Operator) (left right : Kind)
  | notConcatenable (target other : Kind)
  | notRepeatable (count : Kind)
  | incomparable (relation : Relation) (left right : Kind)
  | unhashable (kind : Kind)
  | notIterable (kind : Kind)
  | noLength (kind : Kind)
  | notSubscriptable (kind : Kind)
  | listIndexKind (kind : Kind)
  | textIndexKind (kind : Kind)
  | listIndexRange
  | textIndexRange
  | missingKey (key : Key)
  | noMembers (kind : Kind)
  | notPartOfText (kind : Kind)
  | noMethod (kind : Kind) (name : String)
  | notJoinable
  | joinedItem (index : Nat) (kind : Kind)
  | integerTooLarge
  | quotientTooLarge
  | zeroDivisor (fractional : Bool)
  | repetitionTooLarge
  | textTooLong
  | outOfMemory
  | negativePrice
  | rateOutOfRange

namespace ValueFault

def inQuotes (kind : Kind) : String :=
  "\"" ++ kind.name ++ "\""

def named (kind : Kind) : String :=
  "'" ++ kind.name ++ "'"

def message : ValueFault → String
  | .unsupported operator left right =>
      "unsupported operand type(s) for " ++ operator.symbol ++ ": " ++ named left ++ " and " ++ named right
  | .notConcatenable target other =>
      "can only concatenate " ++ target.name ++ " (not " ++ inQuotes other ++ ") to " ++ target.name
  | .notRepeatable count => "can't multiply sequence by non-int of type " ++ named count
  | .incomparable relation left right =>
      "'" ++ relation.symbol ++ "' not supported between instances of " ++ named left ++ " and " ++ named right
  | .unhashable kind => "unhashable type: " ++ named kind
  | .notIterable kind => named kind ++ " object is not iterable"
  | .noLength kind => "object of type " ++ named kind ++ " has no len()"
  | .notSubscriptable kind => named kind ++ " object is not subscriptable"
  | .listIndexKind kind => "list indices must be integers or slices, not " ++ kind.name
  | .textIndexKind kind => "string indices must be integers, not " ++ named kind
  | .listIndexRange => "list index out of range"
  | .textIndexRange => "string index out of range"
  | .missingKey key => key.display
  | .noMembers kind => "argument of type " ++ named kind ++ " is not iterable"
  | .notPartOfText kind => "'in <string>' requires string as left operand, not " ++ kind.name
  | .noMethod kind name => named kind ++ " object has no attribute '" ++ name ++ "'"
  | .notJoinable => "can only join an iterable"
  | .joinedItem index kind =>
      "sequence item " ++ toString index ++ ": expected str instance, " ++ kind.name ++ " found"
  | .integerTooLarge => "int too large to convert to float"
  | .quotientTooLarge => "integer division result too large for a float"
  | .zeroDivisor fractional => if fractional then "float division by zero" else "division by zero"
  | .repetitionTooLarge => "cannot fit 'int' into an index-sized integer"
  | .textTooLong => "repeated string is too long"
  | .outOfMemory => ""
  | .negativePrice => "Price cannot be negative."
  | .rateOutOfRange => "Tax rate must be between 0 and 1."

end ValueFault

end Refactory
