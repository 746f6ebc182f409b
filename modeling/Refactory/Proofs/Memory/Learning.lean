import Refactory.Proofs.Memory.Bank

/-! Rules that are learned one after another.

Learning a new rule fails, and yet it takes effect: the memory has the rule and the file is empty. So a
run of calls is told by its rules alone, as long as the file can be opened for writing at its start.
-/

set_option autoImplicit false

namespace Refactory.Memory.Bank

open Workspace

/-! ## The rules of a run -/

/-- The rules that are not among the known ones, each where it comes first. -/
def newRules (known : List Value) (rules : List String) : List String :=
  (rules.filter fun rule => .text rule ∉ known).eraseDups

section Rules

variable {known : List Value} {rule : String} {rules : List String}

theorem newRules_nil (known : List Value) : newRules known [] = [] := rfl

theorem newRules_known (member : .text rule ∈ known) : newRules known (rule :: rules) = newRules known rules := by
  simp [newRules, member]

/-- A new rule comes first, and is known from then on. -/
theorem newRules_new (fresh : .text rule ∉ known) :
    newRules known (rule :: rules) = rule :: newRules (known ++ [.text rule]) rules := by
  unfold newRules
  rw [List.filter_cons_of_pos (by simpa using fresh), List.eraseDups_cons, List.filter_filter]
  congr 2
  apply List.filter_congr
  intro other _
  rw [Bool.eq_iff_iff]
  simp [not_or, and_comm]

theorem mem_known_or_newRules : .text rule ∈ known ++ (newRules known rules).map Value.text ↔
    .text rule ∈ known ∨ rule ∈ rules := by
  by_cases member : .text rule ∈ known
  · simp [member]
  · simp [member, newRules]

end Rules

/-! ## Calls in a row -/

def afterRules (bank : Bank) (tree : Tree) (rules : List String) : Bank × Tree :=
  rules.foldl (fun state rule => (state.1.learn (.text rule) state.2).2) (bank, tree)

/-- A bank that knows some preferences, with a path that leads to a place where its file can be written. -/
structure Ready (path : String) (place : Place) (known : List Value) (bank : Bank) (tree : Tree) : Prop where
  path_eq : bank.path = path
  noNull : '\x00' ∉ path.toList
  goal : tree.writable path = .ok place
  listed : bank.preferences = .ok (.list known)

namespace Ready

variable {path : String} {place : Place} {known : List Value} {bank : Bank} {tree : Tree} {rule : String}

theorem of_opened (opened : (tree.writeBytes bank.path []).isOk = true)
    (listed : bank.preferences = .ok (.list known)) : ∃ place, Ready bank.path place known bank tree := by
  cases written : tree.writeBytes bank.path [] with
  | error fault =>
    rw [written] at opened
    cases opened
  | ok after =>
    obtain ⟨noNull, place, goal, _⟩ := Tree.put_of_writeBytes written
    exact ⟨place, rfl, noNull, goal, listed⟩

theorem learn_new (ready : Ready path place known bank tree) (fresh : .text rule ∉ known) :
    ∃ learned after, bank.learn (.text rule) tree = (.error .unsavedMemory, learned, after) ∧
      after.readBytes path = .ok [] ∧ Ready path place (known ++ [.text rule]) learned after := by
  obtain ⟨rfl, noNull, goal, listed⟩ := ready
  have kept : (bank.withPreferences (.list (known ++ [.text rule]))).path = bank.path :=
    path_withPreferences ..
  have found := Tree.lookup_put_writable goal ""
  rw [encode_empty] at found
  refine ⟨_, _, ?_, Tree.readBytes_of_lookup noNull found, kept, noNull, Tree.writable_of_file found,
    preferences_withPreferences listed _⟩
  rw [Bank.learn_new listed fresh, save_emptied (by rwa [kept]) (by rwa [kept])]

/-- After some calls the new rules follow those that were known, and the file can still be written. -/
theorem afterRules (ready : Ready path place known bank tree) (rules : List String) :
    Ready path place (known ++ (newRules known rules).map .text) (bank.afterRules tree rules).1
      (bank.afterRules tree rules).2 := by
  -- a rule that is learned is known to the calls after it, so the known rules vary
  induction rules generalizing known bank tree with
  | nil =>
    rw [newRules_nil, List.map_nil, List.append_nil]
    exact ready
  | cons rule rest ih =>
    rw [Bank.afterRules, List.foldl_cons]
    by_cases member : .text rule ∈ known
    · rw [learn_known ready.listed member, newRules_known member]
      exact ih ready
    · obtain ⟨learned, after, called, _, next⟩ := ready.learn_new member
      rw [called, newRules_new member, List.map_cons, List.append_cons]
      exact ih next

end Ready

/-- Whatever rules are learned in a row, the preferences are those known before and then the new rules,
each where it came first. A call fails exactly if its rule is not there yet, and leaves the file empty; any
other call changes nothing. -/
theorem rules_learned_in_order {bank : Bank} {tree : Tree} {known : List Value}
    (listed : bank.preferences = .ok (.list known)) (opened : (tree.writeBytes bank.path []).isOk = true)
    (rules : List String) :
    (bank.afterRules tree rules).1.preferences = .ok (.list (known ++ (newRules known rules).map .text)) ∧
      ∀ earlier rule later, rules = earlier ++ rule :: later →
        let state := bank.afterRules tree earlier
        (.text rule ∈ known ∨ rule ∈ earlier → state.1.learn (.text rule) state.2 = (.ok (), state)) ∧
        (¬ (.text rule ∈ known ∨ rule ∈ earlier) → ∃ learned after,
          state.1.learn (.text rule) state.2 = (.error .unsavedMemory, learned, after) ∧
            after.readBytes bank.path = .ok []) := by
  obtain ⟨place, ready⟩ := Ready.of_opened opened listed
  refine ⟨(ready.afterRules rules).listed, fun earlier rule later _ => ?_⟩
  have before := ready.afterRules earlier
  rw [← mem_known_or_newRules]
  refine ⟨fun member => learn_known before.listed member _, fun fresh => ?_⟩
  obtain ⟨learned, after, called, empty, _⟩ := before.learn_new fresh
  exact ⟨learned, after, called, empty⟩

def lessons : List String := ["Use type hints", "Use snake case", "Keep functions short", "Use type hints"]

theorem newRules_lessons :
    newRules [.text "Use snake case"] lessons = ["Use type hints", "Keep functions short"] := by
  simp [newRules, lessons, List.eraseDups_cons]

theorem lessons_learned_in_order :
    (Bank.mk defaultPath schooled).preferences = .ok (.list [.text "Use snake case"]) ∧
      (schoolTree.writeBytes defaultPath []).isOk = true ∧
      ((Bank.mk defaultPath schooled).afterRules schoolTree lessons).1.preferences =
        .ok (.list [.text "Use snake case", .text "Use type hints", .text "Keep functions short"]) ∧
      (∃ learned after,
        let state := (Bank.mk defaultPath schooled).afterRules schoolTree (lessons.take 2)
        state.1.learn (.text "Keep functions short") state.2 = (.error .unsavedMemory, learned, after) ∧
          after.readBytes defaultPath = .ok []) ∧
      let state := (Bank.mk defaultPath schooled).afterRules schoolTree (lessons.take 3)
      state.1.learn (.text "Use type hints") state.2 = (.ok (), state) := by
  have listed : (Bank.mk defaultPath schooled).preferences = .ok (.list [.text "Use snake case"]) := rfl
  have opened : (schoolTree.writeBytes defaultPath []).isOk = true := by
    obtain ⟨_, bytes, read⟩ := load_schoolTree
    obtain ⟨noNull, place, found⟩ := Tree.lookup_of_readBytes read
    have written := Tree.writeText_eq noNull (Tree.writable_of_file found) ""
    rw [Tree.writeText, encode_empty] at written
    rw [written]
    rfl
  obtain ⟨rules, calls⟩ := rules_learned_in_order listed opened lessons
  rw [newRules_lessons] at rules
  have third := (calls (lessons.take 2) "Keep functions short" ["Use type hints"] rfl).2 (by simp [lessons])
  have fourth := (calls (lessons.take 3) "Use type hints" [] rfl).1 (by simp [lessons])
  exact ⟨listed, opened, rules, third, fourth⟩

end Refactory.Memory.Bank
