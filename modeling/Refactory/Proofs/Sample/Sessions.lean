import Mathlib.Order.Bounds.Defs
import Refactory.Proofs.Sample.Permutations

/-! Walks over a list that is changed under them.

Each step of a walk goes to the next ordering of as many indices as the list had at the first step. It
reads the list only at the indices after those that this ordering has in common with the last one; what
has been read before is kept, however the list has changed since.
-/

set_option autoImplicit false

namespace Refactory.Sample.Permutations

/-! ## What has happened in a session -/

def Session.begin (items : List Value) : Session := ⟨items, .fresh⟩

def Response.step? : Response → Option Step
  | .stepped step => some step
  | .sequence _ => none

namespace Session

def after (session : Session) : List Action → Session
  | [] => session
  | action :: rest => (session.act action).2.after rest

def steps (session : Session) (actions : List Action) : List Step :=
  (session.run actions).filterMap Response.step?

def seen (session : Session) : List Action → List (List Value)
  | [] => []
  | .next :: rest => session.items :: (session.act .next).2.seen rest
  | action :: rest => (session.act action).2.seen rest

variable (session : Session)

theorem run_append (earlier later : List Action) :
    session.run (earlier ++ later) = session.run earlier ++ (session.after earlier).run later := by
  induction earlier generalizing session with
  | nil => rfl
  | cons action rest ih => exact congrArg (_ :: ·) (ih _)

theorem seen_append (earlier later : List Action) :
    session.seen (earlier ++ later) = session.seen earlier ++ (session.after earlier).seen later := by
  induction earlier generalizing session with
  | nil => rfl
  | cons action rest ih =>
    cases action with
    | next => exact congrArg (_ :: ·) (ih _)
    | close | set | append | pop => exact ih _

theorem length_run (actions : List Action) : (session.run actions).length = actions.length := by
  induction actions generalizing session with
  | nil => rfl
  | cons action rest ih => exact congrArg (· + 1) (ih _)

theorem steps_next (rest : List Action) : session.steps (.next :: rest) =
    (session.walk.next (.list session.items)).1 :: (session.act .next).2.steps rest := rfl

theorem length_seen (actions : List Action) :
    (session.seen actions).length = (session.steps actions).length := by
  induction actions generalizing session with
  | nil => rfl
  | cons action rest ih =>
    cases action with
    | next => exact congrArg (· + 1) (ih _)
    | close | set | append | pop => exact ih _

theorem exists_of_steps {actions : List Action} {number : Nat} {step : Step}
    (given : (session.steps actions)[number]? = some step) :
    ∃ before later, actions = before ++ .next :: later ∧ (session.steps before).length = number ∧
      ((session.after before).walk.next (.list (session.after before).items)).1 = step := by
  induction actions generalizing session number with
  | nil => cases given
  | cons action rest ih =>
    cases action with
    | next =>
      cases number with
      | zero => exact ⟨[], rest, rfl, rfl, Option.some.inj given⟩
      | succ number =>
        obtain ⟨before, later, rfl, numbered, gives⟩ := ih (session.act .next).2 given
        exact ⟨.next :: before, later, rfl, congrArg (· + 1) numbered, gives⟩
    | close | set | append | pop =>
      obtain ⟨before, later, rfl, numbered, gives⟩ := ih _ given
      exact ⟨_ :: before, later, rfl, numbered, gives⟩

end Session

/-! ## Since when an ordering has stood -/

/-- Up to the ordering of a given number, all from this one on agree on their first places, and it is
the least such. -/
def SettledSince (count places number since : Nat) : Prop :=
  IsLeast {start | start ≤ number ∧ ∀ step, start ≤ step → step ≤ number →
    (orderings count)[step]?.map (List.take places) =
      (orderings count)[number]?.map (List.take places)} since

/-- What the next ordering has in common with the last one has stood as long. -/
theorem SettledSince.succ {count places number since : Nat}
    (settled : SettledSince count places number since)
    (same : (orderings count)[number]?.map (List.take places) =
      (orderings count)[number + 1]?.map (List.take places)) :
    SettledSince count places (number + 1) since := by
  obtain ⟨⟨before, agree⟩, least⟩ := settled
  refine ⟨⟨by omega, ?_⟩, ?_⟩
  · intro step from_since upto
    rcases Nat.lt_or_eq_of_le upto with earlier | rfl
    · exact (agree step from_since (by omega)).trans same
    · rfl
  · rintro start ⟨upto, agrees⟩
    rcases Nat.lt_or_eq_of_le upto with earlier | rfl
    · refine least ⟨by omega, fun step from_start inside => ?_⟩
      exact (agrees step from_start (by omega)).trans same.symm
    · omega

theorem settledSince_self {count places number : Nat}
    (new : ∀ last, number = last + 1 → (orderings count)[last]?.map (List.take places) ≠
      (orderings count)[number]?.map (List.take places)) :
    SettledSince count places number number := by
  refine ⟨⟨Nat.le_refl _, ?_⟩, ?_⟩
  · intro step from_number upto
    rw [Nat.le_antisymm upto from_number]
  · rintro start ⟨upto, agrees⟩
    apply Nat.le_of_not_lt
    intro earlier
    exact new (number - 1) (by omega) (agrees (number - 1) (by omega) (by omega))

/-! ## Where a walk stands -/

/-- The indices at which the step to the ordering of a given number reads: those after the longest start
that it has in common with the one before. The first ordering is read as a whole. -/
def reread (count : Nat) : Nat → List Nat
  | 0 => (orderings count)[0]?.getD []
  | number + 1 =>
      beyond ((orderings count)[number]?.getD []) ((orderings count)[number + 1]?.getD [])

theorem reread_zero (count : Nat) : reread count 0 = List.range count := by
  rw [reread, orderings_zero, Option.getD_some]

theorem reread_succ {count number : Nat} {p q : List Nat} (here : (orderings count)[number]? = some p)
    (after : (orderings count)[number + 1]? = some q) : reread count (number + 1) = beyond p q := by
  rw [reread, here, after, Option.getD_some, Option.getD_some]

/-- Each choice has the value that the list had at its index when the orderings came to agree up to
there. The lists are those that the steps have seen. -/
def Recalls (lists : List (List Value)) (count number : Nat) (choices : List Choice) : Prop :=
  ∀ place index value, choices.reverse[place]? = some (index, value) →
    ∃ since list, SettledSince count (place + 1) number since ∧ lists[since]? = some list ∧
      list[index]? = some value

/-- How a walk stands whose steps have seen these lists, without a fault among them: it has as many
indices as the first list had elements, and has come to the ordering of the last step. -/
inductive Standing : List (List Value) → Walk → Prop
  | fresh : Standing [] .fresh
  | amid {first : List Value} {rest : List (List Value)} {choices : List Choice}
      (here : (orderings first.length)[rest.length]? = some (indices choices))
      (recalls : Recalls (first :: rest) first.length rest.length choices) :
      Standing (first :: rest) (.at first.length choices)
  | beyondLast {first : List Value} {rest : List (List Value)} (ended : factorial first.length ≤ rest.length) :
      Standing (first :: rest) .finished

theorem exists_ordering {count number : Nat} (inside : number < factorial count) :
    ∃ ordering, (orderings count)[number]? = some ordering := by
  rw [← length_orderings] at inside
  exact ⟨_, List.getElem?_eq_getElem inside⟩

section Step

variable {past : List (List Value)} {walk : Walk} {items first : List Value} {rest : List (List Value)}

/-- A step that is not the last keeps what it recalls of the orderings' common start, and reads the
rest. -/
theorem Standing.reads (standing : Standing past walk) (now : past ++ [items] = first :: rest)
    (inside : rest.length < factorial first.length) :
    ∃ kept, (orderings first.length)[rest.length]? =
        some (indices kept ++ reread first.length rest.length) ∧
      Recalls (first :: rest) first.length rest.length kept ∧
      (∀ place, kept.length ≤ place →
        SettledSince first.length (place + 1) rest.length rest.length) ∧
      walk.next (.list items) =
        Step.ofChoices first.length (readOn (.list items) (reread first.length rest.length) kept) := by
  cases standing with
  | fresh =>
    obtain ⟨rfl, rfl⟩ := List.cons.inj now
    refine ⟨[], ?_, nofun, fun place _ => settledSince_self nofun, ?_⟩
    · rw [List.length_nil, reread_zero, indices_nil, List.nil_append, orderings_zero]
    · rw [List.length_nil, reread_zero]
      exact next_fresh rfl
  | @amid start lists choices here recalls =>
    rw [List.cons_append] at now
    obtain ⟨rfl, rfl⟩ := List.cons.inj now
    rw [List.length_append, List.length_singleton] at inside ⊢
    obtain ⟨q, after⟩ := exists_ordering inside
    obtain ⟨kept, suffix, joined, agree, steps⟩ := next_of_turns (turns_of_getElem? here after)
      (length_of_mem_orderings (List.mem_of_getElem? after)) rfl (.list items)
    have same (places : Nat) : (orderings start.length)[lists.length]?.map (List.take places) =
        (orderings start.length)[lists.length + 1]?.map (List.take places) ↔ places ≤ kept.length := by
      rw [here, after, Option.map_some, Option.map_some, Option.some_inj, agree]
    refine ⟨kept, ?_, ?_, ?_, ?_⟩
    · rw [reread_succ here after, joined, after]
    · intro place index value found
      have within : place < kept.length := by
        simpa using (List.getElem?_eq_some_iff.mp found).1
      have before : choices.reverse[place]? = some (index, value) := by
        obtain ⟨later, rfl⟩ := suffix
        rw [List.reverse_append, List.getElem?_append_left (by simpa using within), found]
      obtain ⟨since, list, settled, shown, held⟩ := recalls place index value before
      refine ⟨since, list, settled.succ ((same _).mpr within), ?_, held⟩
      rw [← List.cons_append, List.getElem?_append_left, shown]
      exact (List.getElem?_eq_some_iff.mp shown).1
    · intro place outside
      apply settledSince_self
      rintro last ⟨rfl⟩ agreed
      exact Nat.not_succ_le_self _ (Nat.le_trans ((same _).mp agreed) outside)
    · rw [reread_succ here after, steps]
  | beyondLast ended =>
    rw [List.cons_append] at now
    obtain ⟨rfl, rfl⟩ := List.cons.inj now
    rw [List.length_append, List.length_singleton] at inside
    omega

theorem readOn_outside {more : List Nat} (kept : List Choice)
    (outside : ∃ index ∈ more, items.length ≤ index) :
    readOn (.list items) more kept = .error .listIndexRange := by
  induction more generalizing kept with
  | nil =>
    obtain ⟨_, member, _⟩ := outside
    cases member
  | cons index others ih =>
    rw [readOn]
    by_cases inside : index < items.length
    · have later : ∃ index ∈ others, items.length ≤ index := by
        obtain ⟨bad, member, far⟩ := outside
        rcases List.mem_cons.mp member with rfl | member
        · omega
        · exact ⟨bad, member, far⟩
      rw [elementAt_list inside]
      exact ih _ later
    · rw [elementAt, List.getElem?_eq_none (by omega)]
      rfl

/-- A step that reads inside of the list gives a permutation, and the walk stands at it. -/
theorem Standing.next_inside (standing : Standing past walk) (now : past ++ [items] = first :: rest)
    (going : rest.length < factorial first.length)
    (inside : ∀ index ∈ reread first.length rest.length, index < items.length) :
    ∃ choices, walk.next (.list items) = (.permutation (valuesOf choices), .at first.length choices) ∧
      (orderings first.length)[rest.length]? = some (indices choices) ∧
      Recalls (first :: rest) first.length rest.length choices := by
  obtain ⟨kept, here, recalls, new, steps⟩ := standing.reads now going
  have read := readOn_of_readable kept fun index member => elementAt_list (inside index member)
  have last : (first :: rest)[rest.length]? = some items := by
    have length := congrArg List.length now
    simp only [List.length_append, List.length_cons] at length
    rw [← now, ← Nat.succ.inj length, List.getElem?_concat_length]
  refine ⟨_, steps.trans (congrArg _ read), ?_, ?_⟩
  · rw [here, indices_append]
    simp [indices, Function.comp_def]
  · intro place index value found
    rw [List.reverse_append, List.reverse_reverse] at found
    by_cases old : place < kept.length
    · rw [List.getElem?_append_left (by simpa using old)] at found
      exact recalls place index value found
    · rw [List.getElem?_append_right (by simpa using old), List.getElem?_map] at found
      obtain ⟨number, member, same⟩ := Option.map_eq_some_iff.mp found
      obtain ⟨rfl, rfl⟩ := Prod.mk.inj same
      refine ⟨rest.length, items, new place (by omega), last, ?_⟩
      exact (some_itemAt (inside number (List.mem_of_getElem? member))).symm

theorem Standing.next_outside (standing : Standing past walk) (now : past ++ [items] = first :: rest)
    (going : rest.length < factorial first.length)
    (outside : ∃ index ∈ reread first.length rest.length, items.length ≤ index) :
    walk.next (.list items) = (.fault .listIndexRange, .finished) := by
  obtain ⟨kept, _, _, _, steps⟩ := standing.reads now going
  rw [steps, readOn_outside kept outside]
  rfl

theorem Standing.next_beyond (standing : Standing past walk) (now : past ++ [items] = first :: rest)
    (ended : factorial first.length ≤ rest.length) : walk.next (.list items) = (.done, .finished) := by
  cases standing with
  | fresh =>
    obtain ⟨rfl, rfl⟩ := List.cons.inj now
    obtain ⟨inside, _⟩ := List.getElem?_eq_some_iff.mp (orderings_zero items.length)
    rw [length_orderings] at inside
    exact absurd inside (Nat.not_lt_of_le ended)
  | @amid start lists choices here =>
    rw [List.cons_append] at now
    obtain ⟨rfl, rfl⟩ := List.cons.inj now
    apply next_of_spent
    refine spent_of_getElem? here (List.getElem?_eq_none_iff.mpr ?_)
    simpa [length_orderings] using ended
  | beyondLast => rfl

theorem Standing.of_permutation {values : List Value} (standing : Standing past walk)
    (now : past ++ [items] = first :: rest) (gives : (walk.next (.list items)).1 = .permutation values) :
    ∃ choices, values = valuesOf choices ∧
      (orderings first.length)[rest.length]? = some (indices choices) ∧
      Recalls (first :: rest) first.length rest.length choices := by
  have going : rest.length < factorial first.length := by
    apply Nat.lt_of_not_le
    intro ended
    rw [standing.next_beyond now ended] at gives
    cases gives
  have inside : ∀ index ∈ reread first.length rest.length, index < items.length := by
    intro index member
    apply Nat.lt_of_not_le
    intro outside
    rw [standing.next_outside now going ⟨index, member, outside⟩] at gives
    cases gives
  obtain ⟨choices, steps, here, recalls⟩ := standing.next_inside now going inside
  rw [steps] at gives
  exact ⟨choices, (Step.permutation.inj gives).symm, here, recalls⟩

theorem Standing.next (standing : Standing past walk)
    (faultless : ∀ cause, (walk.next (.list items)).1 ≠ .fault cause) :
    Standing (past ++ [items]) (walk.next (.list items)).2 := by
  obtain ⟨first, rest, now⟩ := List.exists_cons_of_ne_nil (List.concat_ne_nil items past)
  rw [now]
  by_cases going : rest.length < factorial first.length
  · by_cases inside : ∀ index ∈ reread first.length rest.length, index < items.length
    · obtain ⟨choices, steps, here, recalls⟩ := standing.next_inside now going inside
      rw [steps]
      exact .amid here recalls
    · have outside : ∃ index ∈ reread first.length rest.length, items.length ≤ index := by
        simpa using inside
      have fault := standing.next_outside now going outside
      exact absurd (congrArg Prod.fst fault) (faultless _)
  · rw [standing.next_beyond now (by omega)]
    exact .beyondLast (by omega)

end Step

/-! ## Whole sessions -/

namespace Session

variable {session : Session}

theorem act_finished (finished : session.walk = .finished) (action : Action) :
    (session.act action).2.walk = .finished := by
  cases action with
  | next =>
    change (session.walk.next (.list session.items)).2 = .finished
    rw [finished]
    rfl
  | close => rfl
  | set | append | pop => exact finished

theorem after_finished (finished : session.walk = .finished) (actions : List Action) :
    (session.after actions).walk = .finished := by
  induction actions generalizing session with
  | nil => exact finished
  | cons action rest ih => exact ih (act_finished finished action)

def Broken (session : Session) (actions : List Action) : Prop :=
  .close ∈ actions ∨ ∃ cause, .fault cause ∈ session.steps actions

theorem finished_of_fault {walk : Walk} {sequence : Value} {cause : ValueFault}
    (met : (walk.next sequence).1 = .fault cause) : (walk.next sequence).2 = .finished := by
  have ends (count : Nat) (outcome : Except ValueFault (List Choice))
      (met : (Step.ofChoices count outcome).1 = .fault cause) :
      (Step.ofChoices count outcome).2 = .finished := by
    cases outcome with
    | ok choices => cases met
    | error fault => rfl
  unfold Walk.next at met ⊢
  split at met
  · split at met
    · rfl
    · exact ends _ _ met
  · split at met
    · rfl
    · exact ends _ _ met
  · rfl

theorem finished_of_broken {actions : List Action} (broken : session.Broken actions) :
    (session.after actions).walk = .finished := by
  induction actions generalizing session with
  | nil => rcases broken with closed | ⟨cause, met⟩ <;> contradiction
  | cons action rest ih =>
    cases action with
    | close => exact after_finished (rfl : (session.act .close).2.walk = .finished) rest
    | next =>
      rcases broken with closed | ⟨cause, met⟩
      · exact ih (.inl ((List.mem_cons.mp closed).resolve_left nofun))
      · rw [steps_next] at met
        rcases List.mem_cons.mp met with now | later
        · have finished : (session.act .next).2.walk = .finished := finished_of_fault now.symm
          exact after_finished finished rest
        · exact ih (.inr ⟨cause, later⟩)
    | set | append | pop =>
      rcases broken with closed | ⟨cause, met⟩
      · exact ih (.inl ((List.mem_cons.mp closed).resolve_left nofun))
      · exact ih (.inr ⟨cause, met⟩)

/-- A walk that is neither closed nor faulted stands where its steps have led it. -/
theorem standing_of_whole {past : List (List Value)} {actions : List Action}
    (standing : Standing past session.walk) (whole : ¬ session.Broken actions) :
    Standing (past ++ session.seen actions) (session.after actions).walk := by
  induction actions generalizing past session with
  | nil => simpa [seen, after] using standing
  | cons action rest ih =>
    cases action with
    | next =>
      have stands : Standing (past ++ [session.items]) (session.act .next).2.walk := by
        refine standing.next fun cause met => whole (.inr ⟨cause, ?_⟩)
        rw [steps_next, met]
        exact List.mem_cons_self
      have later : ¬ (session.act .next).2.Broken rest := by
        rintro (closed | ⟨cause, met⟩)
        · exact whole (.inl (List.mem_cons_of_mem _ closed))
        · exact whole (.inr ⟨cause, List.mem_cons_of_mem _ met⟩)
      have led := ih stands later
      rwa [List.append_assoc] at led
    | close => exact absurd (.inl List.mem_cons_self) whole
    | set | append | pop =>
      refine @ih (session.act _).2 past standing fun broken => whole ?_
      exact broken.imp (List.mem_cons_of_mem _) id

theorem standing_begin {items : List Value} {before : List Action} (whole : ¬ (begin items).Broken before) :
    Standing ((begin items).seen before) ((begin items).after before).walk :=
  standing_of_whole .fresh whole

theorem run_next (session : Session) (before later : List Action) :
    (session.run (before ++ .next :: later))[before.length]? =
      some (.stepped ((session.after before).walk.next (.list (session.after before).items)).1) := by
  rw [run_append, List.getElem?_append_right (by rw [length_run]), length_run, Nat.sub_self]
  rfl

theorem exists_first (session : Session) (before : List Action) :
    ∃ first rest, session.seen before ++ [(session.after before).items] = first :: rest ∧
      rest.length = (session.steps before).length ∧
      ∀ later, first :: rest <+: session.seen (before ++ .next :: later) := by
  obtain ⟨first, rest, now⟩ := List.exists_cons_of_ne_nil
    (List.concat_ne_nil (session.after before).items (session.seen before))
  refine ⟨first, rest, now, ?_, fun later => ?_⟩
  · simpa [length_seen, eq_comm] using congrArg List.length now
  · refine ⟨((session.after before).act .next).2.seen later, ?_⟩
    rw [seen_append, ← now, List.append_assoc]
    rfl

end Session

/-- A result has as many elements as the list had at the first step. It follows the ordering of its own
number, and the element at each place is the one that the list had at the index there when the
orderings came to agree up to that place. -/
theorem results_recall_lists (items : List Value) (actions : List Action) {number : Nat}
    {values : List Value}
    (given : ((Session.begin items).steps actions)[number]? = some (Step.permutation values)) :
    ∃ (first : List Value) (ordering : List Nat), ((Session.begin items).seen actions)[0]? = some first ∧
      (orderings first.length)[number]? = some ordering ∧ values.length = first.length ∧
      ∀ place < first.length, ∃ (index since : Nat) (list : List Value), ordering[place]? = some index ∧
        SettledSince first.length (place + 1) number since ∧
        ((Session.begin items).seen actions)[since]? = some list ∧ values[place]? = list[index]? := by
  obtain ⟨before, later, rfl, rfl, gives⟩ := (Session.begin items).exists_of_steps given
  obtain ⟨first, rest, now, count, shown⟩ := (Session.begin items).exists_first before
  -- a walk that has ended gives no result
  have whole : ¬ (Session.begin items).Broken before := by
    intro broken
    rw [Session.finished_of_broken broken] at gives
    cases gives
  obtain ⟨choices, rfl, here, recalls⟩ := (Session.standing_begin whole).of_permutation now gives
  have size : choices.length = first.length := by
    rw [← length_indices, length_of_mem_orderings (List.mem_of_getElem? here)]
  have kept {place : Nat} {list : List Value} (found : (first :: rest)[place]? = some list) :
      ((Session.begin items).seen (before ++ .next :: later))[place]? = some list := by
    obtain ⟨more, listed⟩ := shown later
    rw [← listed, List.getElem?_append_left (List.getElem?_eq_some_iff.mp found).1, found]
  rw [← count]
  refine ⟨first, indices choices, kept rfl, here, by simpa [valuesOf] using size, ?_⟩
  intro place within
  obtain ⟨⟨index, value⟩, found⟩ : ∃ choice, choices.reverse[place]? = some choice :=
    ⟨_, List.getElem?_eq_getElem (by rwa [List.length_reverse, size])⟩
  obtain ⟨since, list, settled, listed, held⟩ := recalls place index value found
  refine ⟨index, since, list, ?_, settled, kept listed, ?_⟩
  · rw [indices, List.getElem?_map, found, Option.map_some]
  · rw [held, valuesOf, List.getElem?_map, found, Option.map_some]

def alteredActions : List Action := [.next, .set 0 (.int 9), .set 2 (.int 7), .next]

theorem old_element_recalled :
    ((Session.begin [Value.int 0, .int 1, .int 2]).steps alteredActions)[1]? =
        some (Step.permutation [Value.int 0, .int 7, .int 1]) ∧
      ∃ since list, SettledSince 3 1 1 since ∧
        ((Session.begin [Value.int 0, .int 1, .int 2]).seen alteredActions)[since]? = some list ∧
        list[0]? = some (.int 0) := by
  have given : ((Session.begin [Value.int 0, .int 1, .int 2]).steps alteredActions)[1]? =
      some (Step.permutation [Value.int 0, .int 7, .int 1]) := rfl
  obtain ⟨first, ordering, seen, here, _, elements⟩ := results_recall_lists _ _ given
  obtain rfl : [Value.int 0, .int 1, .int 2] = first := Option.some.inj seen
  obtain rfl : [0, 2, 1] = ordering := Option.some.inj here
  obtain ⟨index, since, list, chosen, settled, listed, same⟩ := elements 0 (by decide)
  obtain rfl : 0 = index := Option.some.inj chosen
  exact ⟨given, since, list, settled, listed, same.symm⟩

/-- Up to the last ordering, a step of a walk that is neither closed nor faulted meets a fault exactly if
the list has become too short for an index that it reads, and gives a permutation otherwise. Every other
step reports that there is nothing more. -/
theorem step_fails_iff_outside (items : List Value) (before later : List Action) :
    ∃ (first : List Value) (step : Step),
      ((Session.begin items).seen (before ++ Action.next :: later))[0]? = some first ∧
      ((Session.begin items).run (before ++ Action.next :: later))[before.length]? =
        some (Response.stepped step) ∧
      (((Session.begin items).steps before).length < factorial first.length →
        ¬ (Session.begin items).Broken before →
        (step = Step.fault .listIndexRange ↔
          ∃ index ∈ reread first.length ((Session.begin items).steps before).length,
            ((Session.begin items).after before).items.length ≤ index) ∧
        ((∃ values, step = Step.permutation values) ↔
          ∀ index ∈ reread first.length ((Session.begin items).steps before).length,
            index < ((Session.begin items).after before).items.length)) ∧
      (factorial first.length ≤ ((Session.begin items).steps before).length ∨
        (Session.begin items).Broken before → step = Step.done) := by
  obtain ⟨first, rest, now, count, shown⟩ := (Session.begin items).exists_first before
  obtain ⟨more, listed⟩ := shown later
  refine ⟨first, _, by rw [← listed]; rfl, (Session.begin items).run_next before later, ?_, ?_⟩
  · intro going whole
    have standing := Session.standing_begin whole
    rw [← count] at going ⊢
    by_cases inside : ∀ index ∈ reread first.length rest.length,
        index < ((Session.begin items).after before).items.length
    · obtain ⟨choices, steps, _⟩ := standing.next_inside now going inside
      rw [steps]
      refine ⟨iff_of_false nofun ?_, iff_of_true ⟨_, rfl⟩ inside⟩
      rintro ⟨index, member, outside⟩
      exact Nat.not_lt_of_le outside (inside index member)
    · have outside : ∃ index ∈ reread first.length rest.length,
          ((Session.begin items).after before).items.length ≤ index := by
        simpa using inside
      rw [standing.next_outside now going outside]
      exact ⟨iff_of_true rfl outside, iff_of_false nofun inside⟩
  · intro ended
    by_cases broken : (Session.begin items).Broken before
    · rw [Session.finished_of_broken broken]
      rfl
    · have spent := ended.resolve_right broken
      rw [← count] at spent
      rw [(Session.standing_begin broken).next_beyond now spent]

def shortenedActions : List Action := [.next, .pop]

theorem shortened_list_fails :
    ((Session.begin [Value.int 0, .int 1]).run (shortenedActions ++ [Action.next]))[2]? =
        some (Response.stepped (Step.fault .listIndexRange)) ∧
      ((Session.begin [Value.int 0, .int 1]).run ((shortenedActions ++ [Action.next]) ++ [Action.next]))[3]? =
        some (Response.stepped Step.done) := by
  constructor
  · obtain ⟨first, step, seen, answered, going, _⟩ :=
      step_fails_iff_outside [Value.int 0, .int 1] shortenedActions []
    obtain rfl : [Value.int 0, .int 1] = first := Option.some.inj seen
    have whole : ¬ (Session.begin [Value.int 0, .int 1]).Broken shortenedActions := by
      rintro (closed | ⟨cause, met⟩)
      · simp [shortenedActions] at closed
      · cases met with
        | tail _ more => cases more
    rw [(going (by decide) whole).1.mpr ⟨1, by decide, by decide⟩] at answered
    exact answered
  · obtain ⟨first, step, _, answered, _, ended⟩ :=
      step_fails_iff_outside [Value.int 0, .int 1] (shortenedActions ++ [Action.next]) []
    rw [ended (.inr (.inr ⟨.listIndexRange, .tail _ (.head _)⟩))] at answered
    exact answered

end Refactory.Sample.Permutations
