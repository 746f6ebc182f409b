import Refactory.Proofs.Sample.Orderings

/-! The walk goes through the orderings of the indices, one at each step.

A step keeps the choices that the next ordering has in common with the last one and reads the elements
at its other indices. So over a sequence that does not change the walk gives the elements in the order
of every ordering, and then reports that there are no more.
-/

set_option autoImplicit false

namespace Refactory.Sample.Permutations

/-! ## Indices that have been chosen -/

def indices (choices : List Choice) : List Nat := choices.reverse.map Prod.fst

@[simp] theorem indices_nil : indices [] = [] := rfl

@[simp] theorem indices_cons (choice : Choice) (earlier : List Choice) :
    indices (choice :: earlier) = indices earlier ++ [choice.1] := by
  simp [indices]

@[simp] theorem indices_append (later earlier : List Choice) :
    indices (later ++ earlier) = indices earlier ++ indices later := by
  simp [indices]

@[simp] theorem length_indices (choices : List Choice) : (indices choices).length = choices.length := by
  simp [indices]

theorem mem_indices {index : Nat} {choices : List Choice} :
    index ∈ indices choices ↔ ∃ choice ∈ choices, choice.1 = index := by
  simp only [indices, List.mem_map, List.mem_reverse]

theorem freeIndex?_eq (choices : List Choice) (start room : Nat) :
    freeIndex? choices start room =
      ((List.range' start room).filter (· ∉ indices choices)).head? := by
  induction room generalizing start with
  | zero => rfl
  | succ room ih =>
    rw [freeIndex?, List.range'_succ, ih]
    by_cases chosen : start ∈ indices choices
    · have met : choices.any (·.1 = start) = true := by
        simpa only [List.any_eq_true, decide_eq_true_eq] using mem_indices.mp chosen
      rw [if_pos met, List.filter_cons_of_neg (by simpa using chosen)]
    · have unmet : ¬ choices.any (·.1 = start) = true := by
        simpa only [List.any_eq_true, decide_eq_true_eq] using mem_indices.not.mp chosen
      rw [if_neg unmet, List.filter_cons_of_pos (by simpa using chosen), List.head?_cons]

theorem freeIndex?_zero (choices : List Choice) (count : Nat) :
    freeIndex? choices 0 count = (free count (indices choices)).head? := by
  rw [freeIndex?_eq, free, List.range_eq_range']

theorem filter_lt_range (count index : Nat) :
    (List.range count).filter (index < ·) = List.range' (index + 1) (count - (index + 1)) := by
  induction count with
  | zero => simp
  | succ count ih =>
    rw [List.range_succ, List.filter_append, ih]
    by_cases above : index < count
    · have room : count + 1 - (index + 1) = count - (index + 1) + 1 := by omega
      have last : index + 1 + (count - (index + 1)) = count := by omega
      rw [room, List.range'_1_concat, last, List.filter_singleton]
      simp [above]
    · have none_left : count + 1 - (index + 1) = 0 ∧ count - (index + 1) = 0 := by omega
      rw [none_left.1, none_left.2, List.filter_singleton]
      simp [above]

theorem freeIndex?_above (choices : List Choice) (count index : Nat) :
    freeIndex? choices (index + 1) (count - (index + 1)) =
      (free count (indices choices)).find? (index < ·) := by
  rw [freeIndex?_eq, ← filter_lt_range, ← List.head?_filter, free, List.filter_filter,
    List.filter_filter]
  simp only [Bool.and_comm]

/-! ## One step -/

def readOn (sequence : Value) : List Nat → List Choice → Except ValueFault (List Choice)
  | [], choices => .ok choices
  | index :: rest, choices => do
      let value ← elementAt index sequence
      readOn sequence rest ((index, value) :: choices)

/-- Filling up reads at the free indices in order. -/
theorem fill_eq (sequence : Value) {count missing : Nat} {choices : List Choice}
    (exact : (free count (indices choices)).length = missing) :
    fill sequence count missing choices = readOn sequence (free count (indices choices)) choices := by
  induction missing generalizing choices with
  | zero => rw [List.eq_nil_of_length_eq_zero exact, fill, readOn]
  | succ missing ih =>
    obtain ⟨index, rest, pool⟩ := List.exists_cons_of_length_eq_add_one exact
    have shorter (value : Value) : free count (indices ((index, value) :: choices)) = rest := by
      rw [indices_cons, free_of_cons pool]
    have left : rest.length = missing := by
      rw [pool, List.length_cons] at exact
      omega
    rw [fill, freeIndex?_zero, pool, List.head?_cons, readOn]
    dsimp only
    congr 1
    funext value
    rw [ih (by rw [shorter, left]), shorter]

theorem advance?_spent {count : Nat} {later earlier : List Choice}
    (spent : Spent count (indices earlier) (indices later)) :
    advance? count (later ++ earlier) = advance? count earlier := by
  induction later with
  | nil => rfl
  | cons choice later ih =>
    obtain ⟨index, value⟩ := choice
    rw [indices_cons, spent_append] at spent
    obtain ⟨below, stuck, _⟩ := spent
    rw [← indices_append] at stuck
    rw [List.cons_append, advance?, freeIndex?_above, stuck]
    exact ih below

theorem advance?_turn {count old next : Nat} {value : Value} {later earlier : List Choice}
    (spent : Spent count (indices earlier ++ [old]) (indices later))
    (found : (free count (indices earlier)).find? (old < ·) = some next) :
    advance? count (later ++ (old, value) :: earlier) = some (earlier, next) := by
  rw [advance?_spent (by rwa [indices_cons]), advance?, freeIndex?_above, found]

theorem exists_of_indices_eq {choices : List Choice} {kept rest : List Nat} {old : Nat}
    (same : indices choices = kept ++ old :: rest) :
    ∃ later value earlier, choices = later ++ (old, value) :: earlier ∧ indices later = rest ∧
      indices earlier = kept := by
  obtain ⟨first, others, whole, starts, ends⟩ := List.map_eq_append_iff.mp same
  obtain ⟨⟨index, value⟩, last, rfl, rfl, more⟩ := List.map_eq_cons_iff.mp ends
  refine ⟨last.reverse, value, first.reverse, ?_, by simp [indices, more], by simp [indices, starts]⟩
  rw [← List.reverse_reverse choices, whole]
  simp

/-- From one ordering to the next the walk keeps the choices for what they have in common, and reads
the rest. -/
theorem next_of_turns {count : Nat} {p q : List Nat} {choices : List Choice} (turns : Turns count p q)
    (whole : q.length = count) (standing : indices choices = p) (sequence : Value) :
    ∃ kept, kept <:+ choices ∧ indices kept ++ beyond p q = q ∧
      (∀ size, p.take size = q.take size ↔ size ≤ kept.length) ∧
      Walk.next sequence (.at count choices) =
        Step.ofChoices count (readOn sequence (beyond p q) kept) := by
  obtain @⟨kept, rest, old, next, found, spent⟩ := turns
  have apart : old ≠ next := by
    have above := List.find?_some found
    simp only [decide_eq_true_eq] at above
    omega
  obtain ⟨later, value, earlier, rfl, rfl, rfl⟩ := exists_of_indices_eq standing
  refine ⟨earlier, ⟨later ++ [(old, value)], by simp⟩, by rw [beyond_parted apart], ?_, ?_⟩
  · intro size
    rw [take_eq_take_iff apart, length_indices]
  · have missing (value : Value) : (free count (indices ((next, value) :: earlier))).length =
        count - (earlier.length + 1) := by
      simp only [List.length_append, length_indices, List.length_cons] at whole
      simp only [indices_cons]
      omega
    rw [beyond_parted apart, Walk.next, advance?_turn spent found, readOn]
    dsimp only
    congr 2
    funext value
    rw [fill_eq sequence (missing value), indices_cons]

theorem next_fresh {sequence : Value} {count : Nat} (counted : size sequence = .ok count) :
    Walk.next sequence .fresh = Step.ofChoices count (readOn sequence (List.range count) []) := by
  have filled : fill sequence count count [] = readOn sequence (free count (indices [])) [] :=
    fill_eq sequence (by rw [indices_nil, free_nil, List.length_range])
  rw [indices_nil, free_nil] at filled
  rw [Walk.next, counted]
  exact congrArg (Step.ofChoices count) filled

theorem next_of_spent {count : Nat} {choices : List Choice} (spent : Spent count [] (indices choices))
    (sequence : Value) : Walk.next sequence (.at count choices) = (.done, .finished) := by
  have stuck : advance? count (choices ++ []) = advance? count [] := advance?_spent spent
  rw [List.append_nil] at stuck
  rw [Walk.next, stuck]
  rfl

/-! ## Reading -/

def Valued (value : Nat → Value) (choices : List Choice) : Prop :=
  ∀ choice ∈ choices, choice.2 = value choice.1

theorem Valued.valuesOf {value : Nat → Value} {choices : List Choice} (valued : Valued value choices) :
    valuesOf choices = (indices choices).map value := by
  rw [Permutations.valuesOf, indices, List.map_map]
  apply List.map_congr_left
  intro choice member
  exact valued choice (List.mem_reverse.mp member)

theorem readOn_of_readable {sequence : Value} {value : Nat → Value} {more : List Nat} (kept : List Choice)
    (readable : ∀ index ∈ more, elementAt index sequence = .ok (value index)) :
    readOn sequence more kept = .ok ((more.map fun index => (index, value index)).reverse ++ kept) := by
  induction more generalizing kept with
  | nil => rfl
  | cons index rest ih =>
    rw [readOn, readable index List.mem_cons_self]
    change readOn sequence rest ((index, value index) :: kept) = _
    rw [ih _ fun later member => readable later (List.mem_cons_of_mem index member)]
    simp

/-- The first element that cannot be read decides the fault. -/
theorem readOn_of_unreadable {sequence : Value} {value : Nat → Value} {front back : List Nat} {bad : Nat}
    {fault : ValueFault} (kept : List Choice)
    (readable : ∀ index ∈ front, elementAt index sequence = .ok (value index))
    (broken : elementAt bad sequence = .error fault) :
    readOn sequence (front ++ bad :: back) kept = .error fault := by
  induction front generalizing kept with
  | nil =>
    rw [List.nil_append, readOn, broken]
    rfl
  | cons index rest ih =>
    rw [List.cons_append, readOn, readable index List.mem_cons_self]
    exact ih _ fun later member => readable later (List.mem_cons_of_mem index member)

/-! ## All permutations -/

section Unchanged

variable {sequence : Value} {count : Nat} {value : Nat → Value}

/-- With every element readable, a step that reads the end of an ordering gives its elements. -/
theorem readOn_valued {q more : List Nat} {kept : List Choice} (joined : indices kept ++ more = q)
    (valued : Valued value kept) (readable : ∀ index ∈ q, elementAt index sequence = .ok (value index)) :
    ∃ choices, readOn sequence more kept = .ok choices ∧ indices choices = q ∧ Valued value choices := by
  subst joined
  refine ⟨_, readOn_of_readable kept fun index member =>
    readable index (List.mem_append_right _ member), ?_, ?_⟩
  · simp [indices, Function.comp_def]
  · intro choice member
    rcases List.mem_append.mp member with new | old
    · obtain ⟨index, _, rfl⟩ := List.mem_map.mp (List.mem_reverse.mp new)
      rfl
    · exact valued choice old

/-- From an ordering on, the walk gives the elements in the order of those after it, and ends. -/
theorem collect_at (readable : ∀ index < count, elementAt index sequence = .ok (value index))
    {number bound : Nat} {p : List Nat} {choices : List Choice}
    (here : (orderings count)[number]? = some p) (standing : indices choices = p)
    (valued : Valued value choices) (enough : factorial count ≤ number + bound) :
    collect sequence bound (.at count choices) =
      .ok (((orderings count).drop (number + 1)).map (List.map value)) := by
  -- along the bound, which is never used up before the orderings are
  induction bound generalizing number p choices with
  | zero =>
    have inside := (List.getElem?_eq_some_iff.mp here).1
    rw [length_orderings] at inside
    omega
  | succ bound ih =>
    cases after : (orderings count)[number + 1]? with
    | none =>
      have spent := spent_of_getElem? here after
      rw [← standing] at spent
      rw [collect, next_of_spent spent, List.drop_eq_nil_of_le (List.getElem?_eq_none_iff.mp after)]
      rfl
    | some q =>
      have member := List.mem_of_getElem? after
      obtain ⟨kept, suffix, joined, _, steps⟩ := next_of_turns (turns_of_getElem? here after)
        (length_of_mem_orderings member) standing sequence
      obtain ⟨more, read, now, still⟩ := readOn_valued joined
        (fun choice found => valued choice (suffix.mem found))
        fun index inside => readable index (lt_of_mem_orderings member inside)
      obtain ⟨inside, found⟩ := List.getElem?_eq_some_iff.mp after
      have rest := ih after now still (by omega)
      rw [List.drop_eq_getElem_cons inside, found, List.map_cons, collect, steps, read]
      change (do return valuesOf more :: (← collect sequence bound (.at count more))) = _
      rw [rest, still.valuesOf, now]
      rfl

/-- A walk over a sequence whose elements can all be read gives them in the order of every ordering,
however far beyond its end it is asked to go. -/
theorem collect_fresh (counted : size sequence = .ok count)
    (readable : ∀ index < count, elementAt index sequence = .ok (value index)) {bound : Nat}
    (enough : factorial count < bound) :
    collect sequence bound .fresh = .ok ((orderings count).map (List.map value)) := by
  obtain ⟨bound, rfl⟩ := Nat.exists_eq_add_one_of_ne_zero (Nat.ne_zero_of_lt enough)
  have first := orderings_zero count
  obtain ⟨choices, read, now, valued⟩ : ∃ choices, readOn sequence (List.range count) [] = .ok choices ∧
      indices choices = List.range count ∧ Valued value choices :=
    readOn_valued rfl nofun fun index inside => readable index (List.mem_range.mp inside)
  obtain ⟨inside, found⟩ := List.getElem?_eq_some_iff.mp first
  have rest := collect_at readable first now valued (by omega : factorial count ≤ 0 + bound)
  have whole : orderings count = List.range count :: (orderings count).drop 1 := by
    rw [← found, ← List.drop_eq_getElem_cons inside, List.drop_zero]
  rw [whole, List.map_cons, collect, next_fresh counted, read]
  change (do return valuesOf choices :: (← collect sequence bound (.at count choices))) = _
  rw [rest, valued.valuesOf, now]
  rfl

theorem all_of_readable (counted : size sequence = .ok count)
    (readable : ∀ index < count, elementAt index sequence = .ok (value index)) :
    all sequence = .ok ((orderings count).map (List.map value)) := by
  rw [all, counted]
  exact collect_fresh counted readable (Nat.lt_succ_self _)

/-- An element that cannot be read, with all before it readable, is met by the first step. -/
theorem next_of_unreadable {bad : Nat} {fault : ValueFault} (counted : size sequence = .ok count)
    (inside : bad < count) (readable : ∀ index < bad, elementAt index sequence = .ok (value index))
    (broken : elementAt bad sequence = .error fault) :
    Walk.next sequence .fresh = (.fault fault, .finished) := by
  obtain ⟨more, rfl⟩ := Nat.exists_eq_add_of_lt inside
  have split : List.range (bad + more + 1) = List.range bad ++ bad :: List.range' (bad + 1) more := by
    rw [← List.range'_succ, List.range_eq_range', List.range_eq_range', Nat.add_assoc]
    simpa using (List.range'_append_1 (s := 0) (m := bad) (n := more + 1)).symm
  have read : readOn sequence (List.range (bad + more + 1)) [] = .error fault := by
    rw [split]
    exact readOn_of_unreadable [] (fun index member => readable index (List.mem_range.mp member)) broken
  rw [next_fresh counted, read]
  rfl

theorem all_of_fault {fault : ValueFault} (counted : size sequence = .ok count)
    (met : Walk.next sequence .fresh = (.fault fault, .finished)) : all sequence = .error fault := by
  rw [all, counted]
  change collect sequence (factorial count + 1) .fresh = _
  rw [collect, met]

end Unchanged

/-! ## Lists, texts and dictionaries -/

def itemAt (items : List Value) (index : Nat) : Value := items[index]?.getD .none

theorem some_itemAt {items : List Value} {index : Nat} (inside : index < items.length) :
    some (itemAt items index) = items[index]? := by
  rw [itemAt, List.getElem?_eq_getElem inside, Option.getD_some]

theorem elementAt_list {items : List Value} {index : Nat} (inside : index < items.length) :
    elementAt index (.list items) = .ok (itemAt items index) := by
  rw [elementAt, ← some_itemAt inside]

theorem elementAt_text {text : String} {index : Nat} (inside : index < text.length) :
    elementAt index (.text text) = .ok (itemAt (Value.characters text) index) := by
  have present := List.getElem?_eq_getElem (String.length_toList ▸ inside : index < text.toList.length)
  rw [elementAt, itemAt, Value.characters, List.getElem?_map, present]
  rfl

theorem elementAt_dict {entries : List (Key × Value)} {items : List Value} {index : Nat}
    (inside : index < items.length) (found : Value.lookup? (.int index) entries = items[index]?) :
    elementAt index (.dict entries) = .ok (itemAt items index) := by
  rw [elementAt, found, ← some_itemAt inside]

theorem elementAt_missing {entries : List (Key × Value)} {index : Nat}
    (missing : Value.lookup? (.int index) entries = none) :
    elementAt index (.dict entries) = .error (.missingKey (.int index)) := by
  rw [elementAt, missing]

theorem all_list (items : List Value) :
    all (.list items) = .ok ((orderings items.length).map (List.map (itemAt items))) :=
  all_of_readable rfl fun _ inside => elementAt_list inside

/-- A drained walk gives the elements of a list in the order of every ordering of its indices, from the
least to the greatest, and so does one over a text or over a dictionary that has all of the indices as
keys. The least key that a dictionary lacks is reported before anything is given. -/
theorem all_follows_orderings :
    (∀ count, (orderings count).Pairwise (· < ·) ∧
      ∀ ordering, ordering ∈ orderings count ↔ ordering.Perm (List.range count)) ∧
    (∀ items : List Value, ∃ results, all (.list items) = .ok results ∧
      results.length = factorial items.length ∧
      results.map (List.map some) = (orderings items.length).map (List.map (items[·]?)) ∧
      ∀ bound, factorial items.length < bound → collect (.list items) bound .fresh = .ok results) ∧
    (∀ text : String, all (.text text) = all (.list (Value.characters text))) ∧
    ∀ entries : List (Key × Value),
      (∀ items : List Value, items.length = entries.length →
        (∀ index < entries.length, Value.lookup? (.int index) entries = items[index]?) →
        all (.dict entries) = all (.list items)) ∧
      ∀ missing < entries.length, Value.lookup? (.int missing) entries = none →
        (∀ index < missing, Value.lookup? (.int index) entries ≠ none) →
        Walk.next (.dict entries) .fresh = (.fault (.missingKey (.int missing)), .finished) ∧
        all (.dict entries) = .error (.missingKey (.int missing)) := by
  refine ⟨fun count => ⟨orderings_sorted count, fun _ => mem_orderings⟩, ?_, ?_, ?_⟩
  · intro items
    refine ⟨_, all_list items, by rw [List.length_map, length_orderings], ?_, ?_⟩
    · rw [List.map_map]
      apply List.map_congr_left
      intro ordering member
      rw [Function.comp_apply, List.map_map]
      apply List.map_congr_left
      intro index inside
      exact some_itemAt (lt_of_mem_orderings member inside)
    · intro bound enough
      exact collect_fresh rfl (fun _ inside => elementAt_list inside) enough
  · intro text
    rw [all_list]
    have counted : size (.text text) = .ok (Value.characters text).length := by
      rw [size, Value.characters, List.length_map, String.length_toList]
    refine all_of_readable counted fun index inside => elementAt_text ?_
    rwa [Value.characters, List.length_map, String.length_toList] at inside
  · intro entries
    constructor
    · intro items same found
      rw [all_list, same]
      exact all_of_readable rfl fun index inside => elementAt_dict (same ▸ inside) (found index inside)
    · intro missing inside absent present
      have readable (index : Nat) (before : index < missing) : elementAt index (.dict entries) =
          .ok ((Value.lookup? (.int index) entries).getD .none) := by
        obtain ⟨value, found⟩ := Option.ne_none_iff_exists'.mp (present index before)
        rw [elementAt, found, Option.getD_some]
      have met : Walk.next (.dict entries) .fresh = (.fault (.missingKey (.int missing)), .finished) :=
        next_of_unreadable rfl inside readable (elementAt_missing absent)
      exact ⟨met, all_of_fault rfl met⟩

theorem numbered_entries_walked :
    all (.dict [(.int 1, .text "b"), (.int 0, .text "a")]) = all (.list [.text "a", .text "b"]) ∧
      all (.dict [(.int 0, .text "a"), (.int 2, .text "c")]) = .error (.missingKey (.int 1)) := by
  obtain ⟨_, _, _, entries⟩ := all_follows_orderings
  constructor
  · refine (entries _).1 _ rfl fun index inside => ?_
    match index, inside with
    | 0, _ => rfl
    | 1, _ => rfl
  · refine ((entries _).2 1 (by decide) rfl fun index before => ?_).2
    obtain rfl : index = 0 := by omega
    exact nofun

end Refactory.Sample.Permutations
