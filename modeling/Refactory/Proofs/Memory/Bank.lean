import Refactory.Memory.Bank
import Refactory.Proofs.Json.RoundTrip
import Refactory.Proofs.Value
import Refactory.Proofs.Workspace.Writing

/-! Learning a rule is safe only if the rule is known already.

A rule that is new goes into the memory, and then saving fails. If the file was there, it is left
empty, so that no bank can be loaded from it any more.
-/

set_option autoImplicit false

namespace Refactory.Memory

open Json Workspace

theorem readDocument_written {tree : Tree} {path : String} {place : Place} (noNull : '\x00' ∉ path.toList)
    (goal : tree.writable path = .ok place) (layout : Layout) {value found : Value} (reads : ReadsAs value found) :
    (tree.put place (.file (Text.Utf8.encode (render layout value)))).has path = true ∧
      readDocument (tree.put place (.file (Text.Utf8.encode (render layout value)))) path = .ok found := by
  have noReturn : '\r' ∉ (render layout value).toList := by
    rw [render, String.toList_ofList]
    exact noReturn_chars layout 0 value
  obtain ⟨there, text⟩ := Tree.readText_put noNull goal noReturn
  refine ⟨there, ?_⟩
  unfold readDocument
  rw [text]
  change (parse (render layout value)).mapError _ = _
  rw [parse_render reads layout]
  rfl

/-! ## Rules among preferences -/

namespace Bank

variable {bank : Bank} {known : List Value}

theorem preferences_withPreferences {old : Value} (listed : bank.preferences = .ok old) (new : Value) :
    (bank.withPreferences new).preferences = .ok new := by
  obtain ⟨path, memory⟩ := bank
  cases memory with
  | dict entries => simp [preferences, withPreferences, preferencesOf, Value.lookup?_insert]
  | none | bool | int | float | text | list => cases listed

theorem learned?_known (listed : bank.preferences = .ok (.list known)) {rule : String}
    (member : .text rule ∈ known) : bank.learned? (.text rule) = .ok none := by
  have holds : known.any (·.equals (.text rule)) = true := Value.any_equals_text_iff.mpr member
  unfold learned?
  rw [listed]
  change (if known.any _ = true then _ else _) = _
  rw [if_pos holds]
  rfl

theorem learned?_new (listed : bank.preferences = .ok (.list known)) {rule : String}
    (fresh : .text rule ∉ known) :
    bank.learned? (.text rule) = .ok (some (.list (known ++ [.text rule]))) := by
  have misses : ¬ known.any (·.equals (.text rule)) = true := fun found =>
    fresh (Value.any_equals_text_iff.mp found)
  unfold learned?
  rw [listed]
  change (if known.any _ = true then _ else _) = _
  rw [if_neg misses]
  rfl

theorem learn_known (listed : bank.preferences = .ok (.list known)) {rule : String}
    (member : .text rule ∈ known) (tree : Tree) : bank.learn (.text rule) tree = (.ok (), bank, tree) := by
  unfold learn
  rw [learned?_known listed member]

/-- A rule that is new goes into the memory, and saving fails. -/
theorem learn_new (listed : bank.preferences = .ok (.list known)) {rule : String}
    (fresh : .text rule ∉ known) (tree : Tree) :
    bank.learn (.text rule) tree =
      (.error ((bank.withPreferences (.list (known ++ [.text rule]))).save tree).1,
        bank.withPreferences (.list (known ++ [.text rule])),
        ((bank.withPreferences (.list (known ++ [.text rule]))).save tree).2) := by
  unfold learn
  rw [learned?_new listed fresh]

/-! ## The file -/

theorem path_withPreferences (bank : Bank) (new : Value) : (bank.withPreferences new).path = bank.path := by
  unfold withPreferences
  split <;> rfl

theorem load_eq (tree : Tree) (path : String) :
    load tree path = (if tree.has path then readDocument tree path else .ok emptyMemory).map (Bank.mk path) := by
  unfold load
  split
  · cases readDocument tree path <;> rfl
  · rfl

theorem path_of_load {tree : Tree} {path : String} (loaded : load tree path = .ok bank) : bank.path = path := by
  rw [load_eq] at loaded
  cases document : (if tree.has path then readDocument tree path else .ok emptyMemory) with
  | error failure =>
    rw [document] at loaded
    cases loaded
  | ok memory =>
    rw [document] at loaded
    cases loaded
    rfl

theorem encode_empty : Text.Utf8.encode "" = [] := rfl

/-- Where the file can be written, saving leaves it empty. -/
theorem save_emptied {tree : Tree} {place : Place} (noNull : '\x00' ∉ bank.path.toList)
    (goal : tree.writable bank.path = .ok place) :
    bank.save tree = (.unsavedMemory, tree.put place (.file [])) := by
  have emptied := Tree.writeText_eq noNull goal ""
  rw [Tree.writeText, encode_empty] at emptied
  unfold save
  rw [emptied]

/-- No bank is loaded from an empty file. -/
theorem load_emptied {tree : Tree} {path : String} {place : Place} (noNull : '\x00' ∉ path.toList)
    (goal : tree.writable path = .ok place) :
    (tree.put place (.file [])).readBytes path = .ok [] ∧
      load (tree.put place (.file [])) path = .error (.document (.malformed .expectedValue 1 1 0)) := by
  have found := Tree.lookup_put_writable goal ""
  have noReturn : '\r' ∉ "".toList := by decide
  have empty := Tree.readText_put noNull goal noReturn
  rw [encode_empty] at found empty
  refine ⟨Tree.readBytes_of_lookup noNull found, ?_⟩
  rw [load_eq, if_pos empty.1, readDocument, empty.2]
  rfl

/-- Learning is safe: it ends well, and a bank that is loaded then is the one that has learned, with
the rule among its preferences; or it fails, and neither the file nor the memory has changed. -/
def Safe (bank : Bank) (rule : String) (tree : Tree) : Prop :=
  match bank.learn (.text rule) tree with
  | (.ok (), learned, after) =>
      load after bank.path = .ok learned ∧ ∃ rules, learned.preferences = .ok (.list rules) ∧ .text rule ∈ rules
  | (.error _, learned, after) =>
      after.readBytes bank.path = tree.readBytes bank.path ∧ learned.memory = bank.memory

/-- Learning a rule is safe exactly if the rule is known. A new one fails after the memory has
changed, and the file that was there is lost. -/
theorem learning_safe_iff_known {tree : Tree} {path : String} (loaded : load tree path = .ok bank)
    (listed : bank.preferences = .ok (.list known)) (rule : String) :
    (bank.Safe rule tree ↔ .text rule ∈ known) ∧
      (.text rule ∉ known → ∃ failure learned after,
        bank.learn (.text rule) tree = (.error failure, learned, after) ∧
        learned.preferences = .ok (.list (known ++ [.text rule])) ∧
        ∀ bytes, tree.readBytes path = .ok bytes → failure = .unsavedMemory ∧ after.readBytes path = .ok [] ∧
          ∀ later, load after path ≠ .ok later) := by
  obtain rfl := path_of_load loaded
  have changed := preferences_withPreferences listed (.list (known ++ [.text rule]))
  constructor
  · by_cases member : .text rule ∈ known
    · rw [Safe, learn_known listed member]
      exact iff_of_true ⟨loaded, known, listed, member⟩ member
    · rw [Safe, learn_new listed member]
      refine iff_of_false (fun safe => ?_) member
      -- the memory is not what it was
      rw [preferences, safe.2] at changed
      have longer := congrArg List.length (Value.list.inj (Except.ok.inj (changed.symm.trans listed)))
      simp at longer
  · intro fresh
    refine ⟨_, _, _, learn_new listed fresh tree, changed, fun bytes read => ?_⟩
    obtain ⟨noNull, place, found⟩ := Tree.lookup_of_readBytes read
    have goal := Tree.writable_of_file found
    rw [save_emptied (by rwa [path_withPreferences]) (by rwa [path_withPreferences])]
    obtain ⟨empty, lost⟩ := load_emptied noNull goal
    refine ⟨rfl, empty, fun later again => ?_⟩
    rw [lost] at again
    cases again

def schooled : Value := .dict [(.text "preferences", .list [.text "Use snake case"])]

def schoolTree : Tree :=
  Tree.empty.put (Path.home ++ [defaultPath]) (.file (Text.Utf8.encode (render (.lines 2) schooled)))

theorem load_schoolTree : load schoolTree defaultPath = .ok ⟨defaultPath, schooled⟩ ∧
    ∃ bytes, schoolTree.readBytes defaultPath = .ok bytes := by
  have goal : Tree.empty.writable defaultPath = .ok (Path.home ++ [defaultPath]) := rfl
  have stored : Storable schooled := by
    refine .dict (fun entry member => ?_) fun entry member => ?_
    · rw [List.mem_singleton.mp member]
      trivial
    · rw [List.mem_singleton.mp member]
      exact .list fun item listed => List.mem_singleton.mp listed ▸ .text _
  obtain ⟨there, document⟩ := readDocument_written (by decide) goal (.lines 2) stored.readsAs
  refine ⟨?_, _, Tree.readBytes_of_lookup (by decide) (Tree.lookup_put_writable goal _)⟩
  rw [load_eq, schoolTree, if_pos there, document]
  rfl

theorem second_rule_empties_file : load schoolTree defaultPath = .ok ⟨defaultPath, schooled⟩ ∧
    ¬ (Bank.mk defaultPath schooled).Safe "Use type hints" schoolTree ∧
    ∃ failure learned after,
      (Bank.mk defaultPath schooled).learn (.text "Use type hints") schoolTree = (.error failure, learned, after) ∧
      learned.preferences = .ok (.list [.text "Use snake case", .text "Use type hints"]) ∧
      failure = .unsavedMemory ∧ after.readBytes defaultPath = .ok [] ∧
      ∀ later, load after defaultPath ≠ .ok later := by
  obtain ⟨loaded, bytes, read⟩ := load_schoolTree
  have fresh : Value.text "Use type hints" ∉ [Value.text "Use snake case"] := by simp
  obtain ⟨law, lost⟩ := learning_safe_iff_known loaded rfl "Use type hints"
  obtain ⟨failure, learned, after, outcome, rules, gone⟩ := lost fresh
  exact ⟨loaded, fun safe => fresh (law.mp safe), failure, learned, after, outcome, rules, gone bytes read⟩

end Bank

end Refactory.Memory
