import Refactory.Table

/-! Tables after values have been stored in them.

A key stands where it was first stored and holds what was last stored under it.
-/

set_option autoImplicit false

namespace Refactory.Table

variable {α : Type}

def keys (table : Table α) : List String := table.map Prod.fst

@[simp] theorem keys_nil : keys ([] : Table α) = [] := rfl

@[simp] theorem keys_cons (entry : String × α) (rest : Table α) :
    keys (entry :: rest) = entry.1 :: keys rest := rfl

@[simp] theorem get?_nil (key : String) : get? ([] : Table α) key = none := rfl

theorem get?_cons (entry : String × α) (rest : Table α) (key : String) :
    get? (entry :: rest) key = if key = entry.1 then some entry.2 else get? rest key := by
  unfold get?
  rw [List.lookup_cons]
  by_cases same : key = entry.1
  · simp [same]
  · have differs : (key == entry.1) = false := by simpa using same
    simp [same, differs]

theorem get?_set (table : Table α) (key other : String) (value : α) :
    get? (set key value table) other = if other = key then some value else get? table other := by
  induction table with
  | nil => simp [set, get?_cons]
  | cons entry rest ih =>
    rw [set]
    split
    · rename_i same
      rw [get?_cons, get?_cons, same]
      split <;> rfl
    · rename_i apart
      rw [get?_cons, ih, get?_cons]
      grind

theorem keys_set (table : Table α) (key : String) (value : α) :
    keys (set key value table) = if key ∈ keys table then keys table else keys table ++ [key] := by
  induction table with
  | nil => simp [set]
  | cons entry rest ih =>
    rw [set]
    split
    · rename_i same
      simp [same]
    · rename_i apart
      rw [keys_cons, ih]
      grind [keys_cons]

theorem get?_of_mem {table : Table α} {entry : String × α} (distinct : (keys table).Nodup)
    (member : entry ∈ table) : get? table entry.1 = some entry.2 := by
  induction table with
  | nil => cases member
  | cons first rest ih =>
    rw [keys_cons, List.nodup_cons] at distinct
    rw [get?_cons]
    rcases List.mem_cons.mp member with rfl | later
    · rw [if_pos rfl]
    · have apart : entry.1 ≠ first.1 := fun same =>
        distinct.1 (same ▸ List.mem_map.mpr ⟨entry, later, rfl⟩)
      rw [if_neg apart]
      exact ih distinct.2 later

theorem mem_of_get? {table : Table α} {key : String} {value : α} (found : get? table key = some value) :
    (key, value) ∈ table := by
  induction table with
  | nil => cases found
  | cons first rest ih =>
    rw [get?_cons] at found
    split at found
    · rename_i same
      cases found
      rw [same]
      exact List.mem_cons_self
    · exact List.mem_cons_of_mem first (ih found)

/-! ## Entries stored one after another -/

def storeAll (table : Table α) (entries : List (String × α)) : Table α :=
  entries.foldl (fun table entry => set entry.1 entry.2 table) table

theorem storeAll_cons (table : Table α) (entry : String × α) (rest : List (String × α)) :
    storeAll table (entry :: rest) = storeAll (set entry.1 entry.2 table) rest := rfl

/-- The value is the one that comes last under its key. -/
def IsLast (entries : List (String × α)) (key : String) (value : α) : Prop :=
  ∃ earlier later, entries = earlier ++ (key, value) :: later ∧ key ∉ later.map Prod.fst

theorem isLast_cons_iff {entry : String × α} {rest : List (String × α)} {key : String} {value : α} :
    IsLast (entry :: rest) key value ↔
      IsLast rest key value ∨ entry = (key, value) ∧ key ∉ rest.map Prod.fst := by
  constructor
  · rintro ⟨earlier, later, split, apart⟩
    cases earlier with
    | nil =>
      obtain ⟨rfl, rfl⟩ := List.cons.inj split
      exact Or.inr ⟨rfl, apart⟩
    | cons first earlier =>
      obtain ⟨rfl, rfl⟩ := List.cons.inj split
      exact Or.inl ⟨earlier, later, rfl, apart⟩
  · rintro (⟨earlier, later, rfl, apart⟩ | ⟨rfl, apart⟩)
    · exact ⟨entry :: earlier, later, rfl, apart⟩
    · exact ⟨[], rest, rfl, apart⟩

theorem IsLast.mem {entries : List (String × α)} {key : String} {value : α}
    (last : IsLast entries key value) : (key, value) ∈ entries := by
  obtain ⟨earlier, later, rfl, _⟩ := last
  simp

theorem isLast_iff_mem {entries : List (String × α)} (distinct : (entries.map Prod.fst).Nodup)
    {key : String} {value : α} : IsLast entries key value ↔ (key, value) ∈ entries := by
  refine ⟨IsLast.mem, fun member => ?_⟩
  obtain ⟨earlier, later, rfl⟩ := List.append_of_mem member
  rw [List.map_append, List.map_cons, List.nodup_append] at distinct
  exact ⟨earlier, later, rfl, (List.nodup_cons.mp distinct.2.1).1⟩

/-- A key holds what came last under it, or else what it held before. -/
theorem get?_storeAll (entries : List (String × α)) (table : Table α) {key : String} {value : α} :
    get? (storeAll table entries) key = some value ↔ IsLast entries key value ∨
      key ∉ entries.map Prod.fst ∧ get? table key = some value := by
  induction entries generalizing table with
  | nil => simp [storeAll, IsLast]
  | cons entry rest ih =>
    rw [storeAll_cons, ih, isLast_cons_iff, get?_set]
    obtain ⟨name, stored⟩ := entry
    by_cases same : key = name
    · simp [same, and_comm]
    · grind

/-- The table has the given names as its keys, in the order in which they first come. -/
structure KeyedBy (names : List String) (table : Table α) : Prop where
  mem_iff (key : String) : key ∈ keys table ↔ key ∈ names
  ordered : (keys table).Pairwise fun first second => names.idxOf first < names.idxOf second

theorem KeyedBy.nodup {names : List String} {table : Table α} (keyed : KeyedBy names table) :
    (keys table).Nodup :=
  keyed.ordered.imp fun before same => by
    rw [same] at before
    exact Nat.lt_irrefl _ before

theorem KeyedBy.set {names : List String} {table : Table α} (keyed : KeyedBy names table) (key : String)
    (value : α) : KeyedBy (names ++ [key]) (table.set key value) := by
  -- one more name at the end moves none of the others
  have still {name : String} (known : name ∈ names) : (names ++ [key]).idxOf name = names.idxOf name := by
    rw [List.idxOf_append, if_pos known]
  have ordered : (keys table).Pairwise fun first second =>
      (names ++ [key]).idxOf first < (names ++ [key]).idxOf second := by
    refine keyed.ordered.imp_of_mem fun first second before => ?_
    rwa [still ((keyed.mem_iff _).mp first), still ((keyed.mem_iff _).mp second)]
  constructor
  · intro name
    have known := keyed.mem_iff name
    rw [keys_set]
    split <;> grind
  · rw [keys_set]
    split
    · exact ordered
    · rename_i fresh
      rw [keyed.mem_iff] at fresh
      rw [List.pairwise_append]
      refine ⟨ordered, List.pairwise_singleton .., fun first known second last => ?_⟩
      rw [List.mem_singleton] at last
      subst last
      rw [keyed.mem_iff] at known
      rw [still known, List.idxOf_append, if_neg fresh]
      have bound := List.idxOf_lt_length_iff.mpr known
      omega

theorem KeyedBy.storeAll {names : List String} {table : Table α} (keyed : KeyedBy names table)
    (entries : List (String × α)) :
    KeyedBy (names ++ entries.map Prod.fst) (table.storeAll entries) := by
  induction entries generalizing names table with
  | nil => simpa [Table.storeAll] using keyed
  | cons entry rest ih =>
    have stored := ih (keyed.set entry.1 entry.2)
    rwa [List.append_assoc] at stored

/-! ## Entries of one name -/

/-- Entries of one name are one: in the place of the first, with the value of the last. -/
def merged (entries : Table α) : Table α :=
  (keys entries).eraseDups.filterMap fun name => (get? entries.reverse name).map (name, ·)

theorem filterMap_keys {entries : Table α} {find : String → Option (String × α)}
    (found : ∀ entry ∈ entries, find entry.1 = some entry) : (keys entries).filterMap find = entries := by
  induction entries with
  | nil => rfl
  | cons entry rest ih =>
    rw [keys_cons, List.filterMap_cons_some (found entry List.mem_cons_self)]
    exact congrArg (entry :: ·) (ih fun other member => found other (List.mem_cons_of_mem entry member))

/-- A table is known by its keys, in their order, and what they hold. -/
theorem filterMap_keys_get? {table : Table α} (distinct : (keys table).Nodup) :
    (keys table).filterMap (fun name => (get? table name).map (name, ·)) = table :=
  filterMap_keys fun entry member => by
    rw [get?_of_mem distinct member]
    rfl

theorem storeAll_concat (table : Table α) (entries : List (String × α)) (entry : String × α) :
    storeAll table (entries ++ [entry]) = set entry.1 entry.2 (storeAll table entries) := by
  simp [storeAll, List.foldl_append]

theorem keys_storeAll (entries : Table α) : keys (storeAll [] entries) = (keys entries).eraseDups := by
  -- from the end, since the last entry is stored last
  rw [← List.reverse_reverse entries]
  generalize entries.reverse = reversed
  induction reversed with
  | nil => rfl
  | cons entry others ih =>
    have names : keys (others.reverse ++ [entry]) = keys others.reverse ++ [entry.1] := by simp [keys]
    rw [List.reverse_cons, storeAll_concat, keys_set, names, List.eraseDups_append, ih]
    by_cases known : entry.1 ∈ keys others.reverse
    · simp [List.removeAll, known]
    · simp [List.removeAll, known, List.eraseDups_cons]

theorem get?_storeAll_nil (entries : Table α) (name : String) :
    get? (storeAll [] entries) name = get? entries.reverse name := by
  rw [← List.reverse_reverse entries]
  generalize entries.reverse = reversed
  rw [List.reverse_reverse]
  induction reversed with
  | nil => rfl
  | cons entry others ih => rw [List.reverse_cons, storeAll_concat, get?_set, get?_cons, ih]

theorem storeAll_eq_merged (entries : Table α) : storeAll [] entries = merged entries := by
  have empty : KeyedBy [] ([] : Table α) := ⟨by simp, by simp⟩
  rw [← filterMap_keys_get? (empty.storeAll entries).nodup, keys_storeAll]
  simp only [get?_storeAll_nil]
  rfl

theorem set_fresh {table : Table α} {key : String} (fresh : key ∉ keys table) (value : α) :
    set key value table = table ++ [(key, value)] := by
  induction table with
  | nil => rfl
  | cons entry rest ih =>
    rw [keys_cons, List.mem_cons, not_or] at fresh
    rw [set, if_neg (Ne.symm fresh.1), ih fresh.2]
    rfl

theorem storeAll_of_nodup (table entries : Table α) (distinct : (keys (table ++ entries)).Nodup) :
    storeAll table entries = table ++ entries := by
  induction entries generalizing table with
  | nil => simp [storeAll]
  | cons entry rest ih =>
    have fresh : entry.1 ∉ keys table := by
      rw [keys, List.map_append, List.nodup_append] at distinct
      exact fun known => distinct.2.2 _ known _ (by simp) rfl
    rw [storeAll_cons, set_fresh fresh, ih _ (by simpa using distinct), List.append_assoc]
    rfl

theorem merged_of_nodup {entries : Table α} (distinct : (keys entries).Nodup) : merged entries = entries := by
  rw [← storeAll_eq_merged]
  exact storeAll_of_nodup [] entries distinct

end Refactory.Table
