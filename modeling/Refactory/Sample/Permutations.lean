import Refactory.Value.Fault

/-! Permutations of a sequence, one at a time, by backtracking.

The walk keeps the indices chosen so far with the values found there. Each step gives the next
permutation of the indices in lexicographic order; only the positions that change are read again, so
a sequence that is changed between two steps shows through in the later positions first. How many
indices there are is settled by the first step.
-/

set_option autoImplicit false

namespace Refactory.Sample

def elementAt (index : Nat) : Value → Except ValueFault Value
  | .list items => match items[index]? with
      | some item => .ok item
      | none => .error .listIndexRange
  | .text value => match value.toList[index]? with
      | some c => .ok (.text (String.singleton c))
      | none => .error .textIndexRange
  | .dict entries => match Value.lookup? (.int index) entries with
      | some value => .ok value
      | none => .error (.missingKey (.int index))
  | value => .error (.notSubscriptable value.kind)

def size : Value → Except ValueFault Nat
  | .list items => .ok items.length
  | .text value => .ok value.length
  | .dict entries => .ok entries.length
  | value => .error (.noLength value.kind)

abbrev Choice := Nat × Value

namespace Permutations

/-- The walk before its first step, between two steps, and after its last one. The choices stand with
the latest first. -/
inductive Walk where
  | fresh
  | at (count : Nat) (choices : List Choice)
  | finished

/-- The least index from `start` below `start + room` that has not been chosen. -/
def freeIndex? (choices : List Choice) : Nat → Nat → Option Nat
  | _, 0 => none
  | start, room + 1 =>
      if choices.any (·.1 = start) then freeIndex? choices (start + 1) room else some start

/-- The latest choice that can be moved on to a later index: the choices before it, and that index. -/
def advance? (count : Nat) : List Choice → Option (List Choice × Nat)
  | [] => none
  | (index, _) :: earlier =>
      match freeIndex? earlier (index + 1) (count - (index + 1)) with
      | some next => some (earlier, next)
      -- this choice is spent, so the one before it moves on
      | none => advance? count earlier

def fill (sequence : Value) (count : Nat) : Nat → List Choice → Except ValueFault (List Choice)
  | 0, choices => .ok choices
  | missing + 1, choices => match freeIndex? choices 0 count with
      | none => .ok choices
      | some index => do
          let value ← elementAt index sequence
          fill sequence count missing ((index, value) :: choices)

inductive Step where
  | permutation (values : List Value)
  | done
  | fault (cause : ValueFault)

def valuesOf (choices : List Choice) : List Value :=
  choices.reverse.map Prod.snd

def Step.ofChoices (count : Nat) : Except ValueFault (List Choice) → Step × Walk
  | .ok choices => (.permutation (valuesOf choices), .at count choices)
  | .error cause => (.fault cause, .finished)

def Walk.next (sequence : Value) : Walk → Step × Walk
  | .fresh => match size sequence with
      | .error cause => (.fault cause, .finished)
      | .ok count => Step.ofChoices count (fill sequence count count [])
  | .at count choices => match advance? count choices with
      | none => (.done, .finished)
      | some (earlier, index) =>
          Step.ofChoices count do
            let value ← elementAt index sequence
            fill sequence count (count - (earlier.length + 1)) ((index, value) :: earlier)
  | .finished => (.done, .finished)

def collect (sequence : Value) : Nat → Walk → Except ValueFault (List (List Value))
  | 0, _ => .ok []
  | bound + 1, walk => match walk.next sequence with
      | (.permutation values, after) => do return values :: (← collect sequence bound after)
      | (.done, _) => .ok []
      | (.fault cause, _) => .error cause

def factorial : Nat → Nat
  | 0 => 1
  | n + 1 => (n + 1) * factorial n

def all (sequence : Value) : Except ValueFault (List (List Value)) := do
  let count ← size sequence
  collect sequence (factorial count + 1) .fresh

/-- What may happen to a walk and the list that it walks over. A negative index counts from the end of
the list. -/
inductive Action where
  | next
  | close
  | set (index : Int) (value : Value)
  | append (value : Value)
  | pop

inductive Response where
  | stepped (step : Step)
  | sequence (items : List Value)

structure Session where
  items : List Value
  walk : Walk

def replaceAt (items : List Value) (index : Int) (value : Value) : List Value :=
  let position := if index < 0 then index + items.length else index
  -- an index before the start changes nothing
  if position < 0 then items else items.set position.toNat value

def Session.act (session : Session) : Action → Response × Session
  | .next =>
      let (step, walk) := session.walk.next (.list session.items)
      (.stepped step, { session with walk })
  | .close => (.sequence session.items, { session with walk := .finished })
  | .set index value =>
      let items := replaceAt session.items index value
      (.sequence items, { session with items })
  | .append value =>
      let items := session.items ++ [value]
      (.sequence items, { session with items })
  | .pop =>
      let items := session.items.dropLast
      (.sequence items, { session with items })

def Session.run (session : Session) : List Action → List Response
  | [] => []
  | action :: rest =>
      let (response, after) := session.act action
      response :: after.run rest

end Permutations

end Refactory.Sample
