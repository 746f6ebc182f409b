import Refactory.Double.Text
import Refactory.Text.Quoted

/-! Dynamic values: what sample programs compute with and what stored documents hold.

Integers are unbounded and truth values count as the integers one and zero. A dictionary keeps its
entries in the order in which its keys first came.
-/

set_option autoImplicit false

namespace Refactory

inductive Key where
  | none
  | bool (value : Bool)
  | int (value : Int)
  | float (value : Float)
  | text (value : String)
  deriving Inhabited

inductive Value where
  | none
  | bool (value : Bool)
  | int (value : Int)
  | float (value : Float)
  | text (value : String)
  | list (items : List Value)
  | dict (entries : List (Key × Value))
  deriving Inhabited

inductive Kind where
  | none
  | bool
  | int
  | float
  | text
  | list
  | dict
  deriving DecidableEq, Repr

def Kind.name : Kind → String
  | .none => "NoneType"
  | .bool => "bool"
  | .int => "int"
  | .float => "float"
  | .text => "str"
  | .list => "list"
  | .dict => "dict"

inductive Number where
  | int (value : Int)
  | float (value : Float)

def Number.compare? : Number → Number → Option Ordering
  | .int left, .int right => some (compare left right)
  | .int left, .float right => Double.compareInt? left right
  | .float left, .int right => (Double.compareInt? right left).map Ordering.swap
  | .float left, .float right => Double.compare? left right

def Number.equals (left right : Number) : Bool :=
  left.compare? right = some .eq

namespace Key

def number? : Key → Option Number
  | .bool value => some (.int (if value then 1 else 0))
  | .int value => some (.int value)
  | .float value => some (.float value)
  | _ => Option.none

def same : Key → Key → Bool
  | .none, .none => true
  | .text left, .text right => left == right
  -- truth values, integers and doubles of one value are one key
  | left, right => match left.number?, right.number? with
      | some left, some right => left.equals right
      | _, _ => false

def display : Key → String
  | .none => "None"
  | .bool value => if value then "True" else "False"
  | .int value => toString value
  | .float value => Double.text value
  | .text value => Text.quoted value

def value : Key → Value
  | .none => .none
  | .bool value => .bool value
  | .int value => .int value
  | .float value => .float value
  | .text value => .text value

end Key

namespace Value

def kind : Value → Kind
  | .none => .none
  | .bool _ => .bool
  | .int _ => .int
  | .float _ => .float
  | .text _ => .text
  | .list _ => .list
  | .dict _ => .dict

def key? : Value → Option Key
  | .none => some .none
  | .bool value => some (.bool value)
  | .int value => some (.int value)
  | .float value => some (.float value)
  | .text value => some (.text value)
  | .list _ | .dict _ => Option.none

def number? (value : Value) : Option Number :=
  value.key?.bind Key.number?

def ofNumber : Number → Value
  | .int value => .int value
  | .float value => .float value

def lookup? (key : Key) : List (Key × Value) → Option Value
  | [] => Option.none
  | (other, value) :: rest => if other.same key then some value else lookup? key rest

/-- Stores a value under a key; a key that is already there keeps its place. -/
def insert (key : Key) (value : Value) : List (Key × Value) → List (Key × Value)
  | [] => [(key, value)]
  | (other, old) :: rest =>
      if other.same key then (other, value) :: rest else (other, old) :: insert key value rest

/-- The dictionary with the given entries; of several values for one key the last counts. -/
def ofEntries (entries : List (Key × Value)) : Value :=
  .dict (entries.foldl (fun found entry => insert entry.1 entry.2 found) [])

def sameScalar (left right : Value) : Bool :=
  match left.key?, right.key? with
  | some left, some right => left.same right
  | _, _ => false

mutual

/-- Equality: numbers by their value, dictionaries in any order. -/
def equals : Value → Value → Bool
  | .list left, .list right => equalItems left right
  | .dict left, .dict right => left.length == right.length && equalEntries left right
  | left, right => sameScalar left right

def equalItems : List Value → List Value → Bool
  | [], [] => true
  | left :: lefts, right :: rights => left.equals right && equalItems lefts rights
  | _, _ => false

def equalEntries : List (Key × Value) → List (Key × Value) → Bool
  | [], _ => true
  | (key, value) :: rest, others =>
      -- entries are looked up by key, so their order does not count
      (match lookup? key others with
        | some other => value.equals other
        | Option.none => false) && equalEntries rest others

end

def isTrue : Value → Bool
  | .none => false
  | .bool value => value
  | .int value => value ≠ 0
  | .float value => !(value == 0)
  | .text value => value ≠ ""
  | .list items => !items.isEmpty
  | .dict entries => !entries.isEmpty

def characters (text : String) : List Value :=
  text.toList.map fun c => .text (String.singleton c)

mutual

def display : Value → String
  | .none => Key.display .none
  | .bool value => Key.display (.bool value)
  | .int value => Key.display (.int value)
  | .float value => Key.display (.float value)
  | .text value => Key.display (.text value)
  | .list items => "[" ++ String.intercalate ", " (displayItems items) ++ "]"
  | .dict entries => "\x7b" ++ String.intercalate ", " (displayEntries entries) ++ "\x7d"

def displayItems : List Value → List String
  | [] => []
  | item :: rest => item.display :: displayItems rest

def displayEntries : List (Key × Value) → List String
  | [] => []
  | (key, value) :: rest => (key.display ++ ": " ++ value.display) :: displayEntries rest

end

end Value

end Refactory
