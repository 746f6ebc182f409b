import Refactory.Source.Reader

/-! What all values of a reader have in common.

A property of the values that a reader gives holds in both passes and before any tokens. The rules follow
the ways in which readers are put together: in a sequence only what the last reader gives counts, and what
the readers before it give may be used for it.
-/

set_option autoImplicit false

namespace Refactory.Source

namespace Reader

variable {α β : Type}

/-- All values that the reader gives are good. -/
structure Gives (reader : Reader α) (good : α → Prop) : Prop where
  run {pass : Pass} {cursor after : Cursor} {value : α} (done : reader pass cursor = .ok value after) :
    good value

section Rules

variable {reader : Reader α} {next : α → Reader β} {good : α → Prop} {fine : β → Prop} {value : α}

theorem gives_pure (fit : good value) : Gives (pure value) good := by
  refine ⟨fun done => ?_⟩
  cases done
  exact fit

theorem gives_stuck : Gives stuck good :=
  ⟨fun done => by cases done⟩

theorem gives_failWith {report : Report} : Gives (failWith report) good :=
  ⟨fun done => by cases done⟩

theorem Gives.bind (first : Gives reader good) (second : ∀ value, good value → Gives (next value) fine) :
    Gives (reader >>= next) fine := by
  refine ⟨fun {pass cursor after result} done => ?_⟩
  change Reader.bind reader next pass cursor = _ at done
  rw [Reader.bind] at done
  split at done
  · next value between found => exact (second value (first.run found)).run done
  · cases done
  · cases done

/-- Whatever comes first, what comes last counts. -/
theorem gives_after (second : ∀ value, Gives (next value) fine) : Gives (reader >>= next) fine := by
  have first : Gives reader fun _ => True := ⟨fun _ => trivial⟩
  exact first.bind fun value _ => second value

theorem Gives.ite {condition : Prop} [Decidable condition] {first second : Reader α}
    (positive : Gives first good) (negative : Gives second good) :
    Gives (if condition then first else second) good := by
  split
  · exact positive
  · exact negative

theorem gives_either {condition : Prop} [Decidable condition] {first second : Reader α}
    (positive : Gives first good) (negative : Gives second good)
    (given : ∀ value, good value → Gives (next value) fine) :
    Gives (if condition then first >>= next else second >>= next) fine :=
  Gives.ite (positive.bind given) (negative.bind given)

/-- A check before the rest, which may end the reading. -/
theorem gives_guarded {condition : Prop} [Decidable condition] {check : Reader Unit}
    {rest : Unit → Reader α} (given : ∀ go, Gives (rest go) good) :
    Gives (if condition then check >>= rest else rest ()) good :=
  Gives.ite (gives_after given) (given ())

theorem Gives.attempt (all : Gives reader good) :
    Gives (attempt reader) fun found => ∀ value ∈ found, good value := by
  refine ⟨fun {pass cursor after found} done value member => ?_⟩
  rw [Reader.attempt] at done
  split at done
  · next given between ran =>
    cases done
    cases member
    exact all.run ran
  · cases done
    cases member
  · cases done

theorem Gives.orElse {first second : Reader α} (left : Gives first good) (right : Gives second good) :
    Gives (orElse first second) good := by
  refine ⟨fun done => ?_⟩
  rw [Reader.orElse] at done
  split at done
  · exact right.run done
  · exact left.run done

theorem Gives.orMistake {mistake : Reader Unit} (all : Gives reader good) :
    Gives (orMistake reader mistake) good :=
  all.orElse (gives_after fun _ => gives_after fun _ => gives_stuck)

theorem Gives.many (all : Gives reader good) (limit : Nat) :
    Gives (many limit reader) fun found => ∀ value ∈ found, good value := by
  induction limit with
  | zero => exact gives_pure (by simp)
  | succ limit ih =>
    refine all.attempt.bind fun found fit => ?_
    cases found with
    | none => exact gives_pure (by simp)
    | some value =>
      refine ih.bind fun rest fits => gives_pure ?_
      exact List.forall_mem_cons.mpr ⟨fit value rfl, fits⟩

theorem Gives.many1 (all : Gives reader good) (limit : Nat) :
    Gives (many1 limit reader) fun found => ∀ value ∈ found, good value :=
  all.bind fun _ fit => (all.many limit).bind fun _ fits =>
    gives_pure (List.forall_mem_cons.mpr ⟨fit, fits⟩)

theorem Gives.separated (all : Gives reader good) (limit : Nat) :
    Gives (separated limit reader) fun found => ∀ value ∈ found, good value :=
  all.bind fun _ fit => (Gives.many (gives_after fun _ => all) limit).bind fun _ fits =>
    gives_pure (List.forall_mem_cons.mpr ⟨fit, fits⟩)

theorem Gives.extend {step : α → Reader α} (kept : ∀ value, good value → Gives (step value) good)
    (limit : Nat) (fit : good value) : Gives (extend limit step value) good := by
  induction limit generalizing value with
  | zero => exact gives_pure fit
  | succ limit ih =>
    refine (kept value fit).attempt.bind fun found fits => ?_
    cases found with
    | none => exact gives_pure fit
    | some longer => exact ih (fits longer rfl)

theorem forall_mem_getD {found : Option (List α)} (fits : ∀ values ∈ found, ∀ value ∈ values, good value) :
    ∀ value ∈ found.getD [], good value := by
  cases found with
  | none => simp
  | some values => exact fits values rfl

end Rules

end Reader

/-! ## Computations that may end in a fault -/

/-- If the computation ends without a fault, its value is good. -/
structure Delivers {α : Type} (result : Except Report α) (good : α → Prop) : Prop where
  run {value : α} (done : result = .ok value) : good value

section Faults

variable {α β : Type} {result : Except Report α} {next : α → Except Report β} {good : α → Prop}
  {fine : β → Prop} {value : α}

theorem delivers_pure (fit : good value) : Delivers (pure value) good := by
  refine ⟨fun done => ?_⟩
  cases done
  exact fit

theorem delivers_error {report : Report} : Delivers (.error report) good :=
  ⟨fun done => by cases done⟩

theorem Delivers.bind (first : Delivers result good)
    (second : ∀ value, good value → Delivers (next value) fine) : Delivers (result >>= next) fine := by
  cases result with
  | error report => exact delivers_error
  | ok value => exact second value (first.run rfl)

theorem delivers_after (second : ∀ value, Delivers (next value) fine) :
    Delivers (result >>= next) fine := by
  have first : Delivers result fun _ => True := ⟨fun _ => trivial⟩
  exact first.bind fun value _ => second value

theorem delivers_guarded {condition : Prop} [Decidable condition] {check : Except Report Unit}
    {rest : Unit → Except Report α} (given : ∀ go, Delivers (rest go) good) :
    Delivers (if condition then check >>= rest else rest ()) good := by
  split
  · exact delivers_after given
  · exact given ()

end Faults

end Refactory.Source
