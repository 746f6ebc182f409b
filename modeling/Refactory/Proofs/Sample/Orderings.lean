import Mathlib.Data.List.Chain
import Refactory.Sample.Permutations

/-! The orderings of the numbers below a bound, in lexicographic order.

They are listed by their first number, then by their second one, and so on. The list is strictly
increasing, holds every ordering and nothing else, and so has factorially many members. Each member is
reached from the one before it by a turn: the places at the end that can go no further are given up,
the place before them moves on to the next free number, and the free numbers fill up the rest.
-/

set_option autoImplicit false

namespace Refactory.Sample.Permutations

/-! ## Free numbers -/

def free (count : Nat) (chosen : List Nat) : List Nat :=
  (List.range count).filter (· ∉ chosen)

theorem free_nil (count : Nat) : free count [] = List.range count := by
  simp [free]

theorem free_sorted (count : Nat) (chosen : List Nat) : (free count chosen).Pairwise (· < ·) :=
  List.pairwise_lt_range.filter _

theorem erase_free (count index : Nat) (chosen : List Nat) :
    (free count chosen).erase index = free count (chosen ++ [index]) := by
  have distinct : (free count chosen).Nodup := (free_sorted count chosen).imp Nat.ne_of_lt
  rw [distinct.erase_eq_filter, free, free, List.filter_filter]
  apply List.filter_congr
  intro number _
  simp [not_or, Bool.and_comm, bne, beq_eq_decide]

theorem free_of_cons {count index : Nat} {chosen rest : List Nat}
    (first : free count chosen = index :: rest) : free count (chosen ++ [index]) = rest := by
  rw [← erase_free, first, List.erase_cons_head]

/-! ## The list of orderings -/

def arrangements : Nat → List Nat → List (List Nat)
  | 0, _ => [[]]
  | size + 1, pool =>
      pool.flatMap fun first => (arrangements size (pool.erase first)).map (first :: ·)

def orderings (count : Nat) : List (List Nat) := arrangements count (List.range count)

theorem mem_arrangements {size : Nat} {pool ordering : List Nat} (whole : pool.length = size) :
    ordering ∈ arrangements size pool ↔ ordering.Perm pool := by
  induction size generalizing pool ordering with
  | zero =>
    rw [List.eq_nil_of_length_eq_zero whole]
    simp [arrangements]
  | succ size ih =>
    have shorter {first : Nat} (member : first ∈ pool) : (pool.erase first).length = size := by
      rw [List.length_erase_of_mem member, whole, Nat.add_sub_cancel]
    simp only [arrangements, List.mem_flatMap, List.mem_map]
    constructor
    · rintro ⟨first, member, rest, arranged, rfl⟩
      have others := (ih (shorter member)).mp arranged
      exact (others.cons first).trans (List.perm_cons_erase member).symm
    · intro arranged
      cases ordering with
      | nil =>
        rw [List.nil_perm.mp arranged] at whole
        cases whole
      | cons first rest =>
        obtain ⟨member, others⟩ := List.cons_perm_iff_perm_erase.mp arranged
        exact ⟨first, member, rest, (ih (shorter member)).mpr others, rfl⟩

theorem length_arrangements {size : Nat} {pool : List Nat} (whole : pool.length = size) :
    (arrangements size pool).length = factorial size := by
  induction size generalizing pool with
  | zero => rfl
  | succ size ih =>
    -- every first number is followed by as many arrangements of the others
    have same (first : Nat) (member : first ∈ pool) :
        ((arrangements size (pool.erase first)).map (first :: ·)).length = factorial size := by
      rw [List.length_map, ih]
      rw [List.length_erase_of_mem member, whole, Nat.add_sub_cancel]
    rw [arrangements, List.length_flatMap, List.map_congr_left same, List.map_const',
      List.sum_replicate_nat, whole, factorial]

theorem arrangements_sorted (size : Nat) {pool : List Nat} (sorted : pool.Pairwise (· < ·)) :
    (arrangements size pool).Pairwise (· < ·) := by
  induction size generalizing pool with
  | zero => exact List.pairwise_singleton ..
  | succ size ih =>
    rw [arrangements, List.pairwise_flatMap]
    constructor
    · intro first _
      refine (ih (sorted.sublist (List.erase_sublist ..))).map _ fun p q before => ?_
      exact List.cons_lt_cons_iff.mpr (.inr ⟨rfl, before⟩)
    · refine sorted.imp fun {first second} before => ?_
      simp only [List.mem_map]
      rintro _ ⟨p, _, rfl⟩ _ ⟨q, _, rfl⟩
      exact List.cons_lt_cons_iff.mpr (.inl before)

theorem mem_orderings {count : Nat} {ordering : List Nat} :
    ordering ∈ orderings count ↔ ordering.Perm (List.range count) :=
  mem_arrangements List.length_range

theorem length_orderings (count : Nat) : (orderings count).length = factorial count :=
  length_arrangements List.length_range

theorem orderings_sorted (count : Nat) : (orderings count).Pairwise (· < ·) :=
  arrangements_sorted count List.pairwise_lt_range

theorem length_of_mem_orderings {count : Nat} {ordering : List Nat} (member : ordering ∈ orderings count) :
    ordering.length = count := by
  rw [(mem_orderings.mp member).length_eq, List.length_range]

theorem lt_of_mem_orderings {count index : Nat} {ordering : List Nat} (member : ordering ∈ orderings count)
    (inside : index ∈ ordering) : index < count :=
  List.mem_range.mp ((mem_orderings.mp member).mem_iff.mp inside)

/-! ## From one ordering to the next -/

/-- After the numbers kept, none of these places can move on to a greater free number. -/
def Spent (count : Nat) : List Nat → List Nat → Prop
  | _, [] => True
  | kept, index :: rest =>
      (free count kept).find? (index < ·) = none ∧ Spent count (kept ++ [index]) rest

theorem spent_append {count : Nat} {kept first second : List Nat} :
    Spent count kept (first ++ second) ↔ Spent count kept first ∧ Spent count (kept ++ first) second := by
  induction first generalizing kept with
  | nil => simp [Spent]
  | cons index rest ih => simp [Spent, ih, and_assoc]

/-- A turn from one ordering to another: the places after `old` are spent, `old` moves on to the next
free number, and the numbers that are free then follow. -/
inductive Turns (count : Nat) : List Nat → List Nat → Prop
  | turn {kept rest : List Nat} {old next : Nat} (found : (free count kept).find? (old < ·) = some next)
      (spent : Spent count (kept ++ [old]) rest) :
      Turns count (kept ++ old :: rest) (kept ++ next :: free count (kept ++ [next]))

/-- In an increasing list the first number above one of its members stands right after it. -/
theorem find?_above {front back : List Nat} {index : Nat}
    (sorted : (front ++ index :: back).Pairwise (· < ·)) :
    (front ++ index :: back).find? (index < ·) = back.head? := by
  obtain ⟨_, above, below⟩ := List.pairwise_append.mp sorted
  have passed : front.find? (index < ·) = none := by
    rw [List.find?_eq_none]
    intro number member
    have := below number member index List.mem_cons_self
    simp only [decide_eq_true_eq]
    omega
  rw [List.find?_append, passed, Option.none_or, List.find?_cons_of_neg (by simp)]
  cases back with
  | nil => rfl
  | cons next rest =>
    have greater := List.rel_of_pairwise_cons above List.mem_cons_self
    rw [List.find?_cons_of_pos (by simpa using greater), List.head?_cons]

/-- What is known of the arrangements that follow the numbers kept: the first of them has the free
numbers in order, the last one is spent, and each turns into the next. -/
structure Walked (count : Nat) (kept : List Nat) (listed : List (List Nat)) : Prop where
  first : listed.head? = some (free count kept)
  last : ∀ ordering ∈ listed.getLast?, Spent count kept ordering
  turns : listed.IsChain fun p q => Turns count (kept ++ p) (kept ++ q)

theorem Walked.ne_nil {count : Nat} {kept : List Nat} {listed : List (List Nat)}
    (walked : Walked count kept listed) : listed ≠ [] := by
  rintro rfl
  cases walked.first

section Blocks

variable {count : Nat} {kept : List Nat} {listed : Nat → List (List Nat)}

/-- The arrangements with one first number begin with it and the numbers that are free then. -/
theorem head?_block {first : Nat} (inner : Walked count (kept ++ [first]) (listed first)) :
    ((listed first).map (first :: ·)).head? = some (first :: free count (kept ++ [first])) := by
  rw [List.head?_map, inner.first, Option.map_some]

theorem getLast?_block {first : Nat} {ordering : List Nat}
    (inner : Walked count (kept ++ [first]) (listed first))
    (found : ordering ∈ ((listed first).map (first :: ·)).getLast?) :
    ∃ rest, ordering = first :: rest ∧ Spent count (kept ++ [first]) rest := by
  rw [List.getLast?_map] at found
  obtain ⟨rest, last, rfl⟩ := Option.map_eq_some_iff.mp found
  exact ⟨rest, rfl, inner.last rest last⟩

/-- The blocks of all first numbers make up a walk if each of them does. -/
theorem Walked.blocks (some_free : free count kept ≠ [])
    (inner : ∀ first ∈ free count kept, Walked count (kept ++ [first]) (listed first)) :
    Walked count kept ((free count kept).flatMap fun first => (listed first).map (first :: ·)) := by
  have sorted := free_sorted count kept
  refine ⟨?_, ?_, ?_⟩
  · obtain ⟨first, rest, pool⟩ := List.exists_cons_of_ne_nil some_free
    have begun := head?_block (inner first (pool ▸ List.mem_cons_self))
    rw [free_of_cons pool] at begun
    rw [pool, List.flatMap_cons, List.head?_append, begun, Option.some_or]
  · -- the greatest free number comes last, and nothing above it is free
    obtain ⟨front, last, pool⟩ := (List.eq_nil_or_concat' _).resolve_left some_free
    have ended := inner last (by simp [pool])
    have greatest : (free count kept).find? (last < ·) = none := by
      rw [pool] at sorted ⊢
      exact find?_above sorted
    intro ordering found
    have closing : ordering ∈ ((listed last).map (last :: ·)).getLast? := by
      rw [pool, List.flatMap_append, List.flatMap_singleton] at found
      rwa [List.getLast?_append_of_ne_nil _ (by simp [ended.ne_nil])] at found
    obtain ⟨rest, rfl, spent⟩ := getLast?_block ended closing
    exact ⟨greatest, spent⟩
  · rw [List.flatMap_def, List.isChain_flatten]
    · constructor
      · -- inside a block the first number stays
        intro block member
        obtain ⟨first, free_first, rfl⟩ := List.mem_map.mp member
        rw [List.isChain_map]
        refine (inner first free_first).turns.imp fun p q turns => ?_
        simpa using turns
      · -- between two blocks the first number moves on
        rw [List.isChain_map, List.isChain_iff_forall_rel_of_append_cons_cons]
        intro first second front back pool p last q begun
        have follows : (free count kept).find? (first < ·) = some second := by
          rw [pool] at sorted ⊢
          exact find?_above sorted
        obtain ⟨rest, rfl, spent⟩ := getLast?_block (inner first (by simp [pool])) last
        rw [head?_block (inner second (by simp [pool]))] at begun
        obtain rfl := Option.some.inj begun
        exact .turn follows spent
    · intro empty
      obtain ⟨first, free_first, none_listed⟩ := List.mem_map.mp empty
      exact (inner first free_first).ne_nil (List.map_eq_nil_iff.mp none_listed)

end Blocks

theorem arrangements_walked {count size : Nat} {kept : List Nat} (whole : (free count kept).length = size) :
    Walked count kept (arrangements size (free count kept)) := by
  induction size generalizing kept with
  | zero =>
    have none_free := List.eq_nil_of_length_eq_zero whole
    refine ⟨by rw [none_free]; rfl, ?_, List.isChain_singleton _⟩
    rintro ordering ⟨rfl⟩
    trivial
  | succ size ih =>
    refine .blocks (List.ne_nil_of_length_eq_add_one whole) fun first member => ?_
    rw [erase_free]
    apply ih
    rw [← erase_free, List.length_erase_of_mem member, whole, Nat.add_sub_cancel]

theorem orderings_walked (count : Nat) : Walked count [] (orderings count) := by
  have walked : Walked count [] (arrangements count (free count [])) :=
    arrangements_walked (by rw [free_nil, List.length_range])
  rwa [free_nil] at walked

theorem orderings_zero (count : Nat) : (orderings count)[0]? = some (List.range count) := by
  rw [← List.head?_eq_getElem?, (orderings_walked count).first, free_nil]

/-- Every ordering but the first is reached by a turn from the one before it. -/
theorem turns_of_getElem? {count number : Nat} {p q : List Nat} (here : (orderings count)[number]? = some p)
    (after : (orderings count)[number + 1]? = some q) : Turns count p q := by
  obtain ⟨inside, rfl⟩ := List.getElem?_eq_some_iff.mp after
  obtain ⟨_, rfl⟩ := List.getElem?_eq_some_iff.mp here
  exact List.isChain_iff_getElem.mp (orderings_walked count).turns number inside

theorem spent_of_getElem? {count number : Nat} {p : List Nat} (here : (orderings count)[number]? = some p)
    (after : (orderings count)[number + 1]? = none) : Spent count [] p := by
  apply (orderings_walked count).last
  have inside := (List.getElem?_eq_some_iff.mp here).1
  have outside := List.getElem?_eq_none_iff.mp after
  have last : (orderings count).length - 1 = number := by omega
  rw [Option.mem_def, List.getLast?_eq_getElem?, last, here]

/-! ## Where two orderings part -/

/-- What follows the longest common start of two lists in the second of them. -/
def beyond : List Nat → List Nat → List Nat
  | p :: ps, q :: qs => if p = q then beyond ps qs else q :: qs
  | _, qs => qs

theorem beyond_append (kept p q : List Nat) : beyond (kept ++ p) (kept ++ q) = beyond p q := by
  induction kept with
  | nil => rfl
  | cons index rest ih => rw [List.cons_append, List.cons_append, beyond, if_pos rfl, ih]

theorem beyond_parted {kept rest more : List Nat} {old next : Nat} (apart : old ≠ next) :
    beyond (kept ++ old :: rest) (kept ++ next :: more) = next :: more := by
  rw [beyond_append, beyond, if_neg apart]

theorem take_eq_take_iff {kept rest more : List Nat} {old next : Nat} (apart : old ≠ next) (size : Nat) :
    (kept ++ old :: rest).take size = (kept ++ next :: more).take size ↔ size ≤ kept.length := by
  constructor
  · intro same
    apply Nat.le_of_not_lt
    intro longer
    have place := congrArg (·[kept.length]?) same
    simp [List.getElem?_take_of_lt longer, apart] at place
  · intro within
    rw [List.take_append_of_le_length within, List.take_append_of_le_length within]

end Refactory.Sample.Permutations
