import Refactory.Proofs.Analysis.Scope
import Refactory.Proofs.Source.Mentions

/-! The verdict on new code, by what the trees of the old and the new text mention.

The check works on a listing of all nodes, level by level. Here its verdict and its message are told
by the mentions, which follow the tree.
-/

set_option autoImplicit false

namespace Refactory.Analysis

open Source

/-! ## Global names by mentions -/

/-- The program reads the name and neither assigns nor defines it, has no parameter of that name, and
the language does not bring it along. -/
structure Global (program : Program) (name : String) : Prop where
  read : .read name ∈ program.mentions
  unassigned : .assigned name ∉ program.mentions
  noParameter : .parameter name ∉ program.mentions
  undefined : .defined name ∉ program.mentions
  own : name ∉ builtinNames

instance (program : Program) (name : String) : Decidable (Global program name) :=
  decidable_of_iff (.read name ∈ program.mentions ∧ .assigned name ∉ program.mentions ∧
      .parameter name ∉ program.mentions ∧ .defined name ∉ program.mentions ∧ name ∉ builtinNames)
    ⟨fun ⟨read, unassigned, noParameter, undefined, own⟩ =>
        ⟨read, unassigned, noParameter, undefined, own⟩,
      fun ⟨read, unassigned, noParameter, undefined, own⟩ =>
        ⟨read, unassigned, noParameter, undefined, own⟩⟩

section OwnMentions

variable {node : Node} {name : String}

theorem taken?_eq_some_iff {parameter : Parameter} {mention : Mention} :
    parameter.taken? = some mention ↔ ∃ name typeHint value,
      parameter = .mk .positional name typeHint value ∧ mention = .taken name := by
  fun_cases Parameter.taken? <;> grind

theorem readName?_iff : readName? node = some name ↔ .read name ∈ node.ownMentions := by
  fun_cases Node.ownMentions node <;> grind [readName?, taken?_eq_some_iff]

theorem boundName?_iff : boundName? node = some name ↔ .assigned name ∈ node.ownMentions ∨
    .parameter name ∈ node.ownMentions ∨ .defined name ∈ node.ownMentions := by
  fun_cases Node.ownMentions node <;> grind [boundName?, taken?_eq_some_iff]

theorem mem_positionalParameters :
    name ∈ positionalParameters node ↔ .taken name ∈ node.ownMentions := by
  fun_cases Node.ownMentions node <;> grind [positionalParameters, taken?_eq_some_iff]

end OwnMentions

section Programs

variable {program : Program} {name : String}

theorem reads_iff : Reads program name ↔ .read name ∈ program.mentions := by
  rw [← mem_read_iff, List.mem_filterMap, Program.mem_mentions]
  simp only [Program.mem_nodes, readName?_iff]

theorem binds_iff : Binds program name ↔ .assigned name ∈ program.mentions ∨
    .parameter name ∈ program.mentions ∨ .defined name ∈ program.mentions := by
  simp only [Binds, boundName?_iff, Program.mem_mentions, and_or_left, exists_or]

theorem takes_iff : Takes program name ↔ .taken name ∈ program.mentions := by
  simp only [Takes, mem_positionalParameters, Program.mem_mentions]

theorem usesGlobally_iff : UsesGlobally program name ↔ Global program name := by
  constructor
  · rintro ⟨read, unbound, own⟩
    rw [binds_iff, not_or, not_or] at unbound
    exact ⟨reads_iff.mp read, unbound.1, unbound.2.1, unbound.2.2, own⟩
  · rintro ⟨read, unassigned, noParameter, undefined, own⟩
    have unbound : ¬ Binds program name := by
      rw [binds_iff, not_or, not_or]
      exact ⟨unassigned, noParameter, undefined⟩
    exact ⟨reads_iff.mpr read, unbound, own⟩

end Programs

def GlobalIn (text name : String) : Prop :=
  ∃ program, Program.parse text = .ok program ∧ Global program name

theorem mem_globalNamesOfText {text name : String} :
    name ∈ globalNamesOfText text ↔ GlobalIn text name := by
  unfold globalNamesOfText GlobalIn
  cases Program.parse text with
  | error fault => simp
  | ok program => simp [mem_globalNames, usesGlobally_iff]

/-- The old text has the name as a global one, and the new program neither has it so nor takes it as a
parameter. -/
def Lost (old : String) (after : Program) (name : String) : Prop :=
  GlobalIn old name ∧ ¬ (Global after name ∨ .taken name ∈ after.mentions)

theorem mem_dropped_iff {old name : String} {after : Program} :
    name ∈ droppedNames (globalNamesOfText old) after ↔ Lost old after name := by
  rw [mem_droppedNames, mem_globalNamesOfText, usesGlobally_iff, takes_iff, Lost, not_or]

/-! ## Order of the names -/

theorem nodup_eraseDups (names : List String) : names.eraseDups.Nodup := by
  cases names with
  | nil => simp
  | cons first rest =>
    rw [List.eraseDups_cons, List.nodup_cons]
    refine ⟨?_, nodup_eraseDups (rest.filter fun name => !name == first)⟩
    simp [List.mem_eraseDups]
termination_by names.length
decreasing_by simpa using Nat.lt_succ_of_le (List.length_filter_le (fun name => !name == first) rest)

theorem sortNames_ascending (names : List String) : (sortNames names).Pairwise (· < ·) := by
  have ordered : (sortNames names).Pairwise fun left right => (!decide (right < left)) = true := by
    apply List.pairwise_mergeSort
    · intro first second third
      simp only [Bool.not_eq_true', decide_eq_false_iff_not, String.not_lt]
      exact String.le_trans
    · intro first second
      simp only [Bool.or_eq_true, Bool.not_eq_true', decide_eq_false_iff_not, String.not_lt]
      exact String.le_total first second
  have distinct : (sortNames names).Nodup :=
    (nodup_eraseDups names).perm (List.mergeSort_perm _ _).symm
  -- of two different names in order the first one is smaller
  refine (ordered.and distinct).imp fun {left right} ⟨inOrder, different⟩ => ?_
  simp only [Bool.not_eq_true', decide_eq_false_iff_not, String.not_lt] at inOrder
  refine Classical.byContradiction fun notSmaller => different ?_
  exact String.le_antisymm inOrder (String.not_lt.mp notSmaller)

/-- Names in order are known by which ones they are. -/
theorem sortNames_congr {names others : List String} (same : ∀ name, name ∈ names ↔ name ∈ others) :
    sortNames names = sortNames others := by
  have distinct (listed : List String) : (sortNames listed).Nodup :=
    (sortNames_ascending listed).imp fun smaller => String.ne_of_lt smaller
  have members : (sortNames names).Perm (sortNames others) := by
    rw [List.perm_ext_iff_of_nodup (distinct names) (distinct others)]
    intro name
    rw [mem_sortNames, mem_sortNames, same]
  refine members.eq_of_pairwise (fun _ _ _ _ less more => ?_) (sortNames_ascending names)
    (sortNames_ascending others)
  exact absurd more (String.lt_asymm less)

theorem globalNames_eq {first second : Program}
    (same : ∀ name, Global first name ↔ Global second name) : globalNames first = globalNames second := by
  have listed (program : Program) (name : String) :
      name ∈ globalsOf program.nodes ↔ Global program name := by
    rw [← usesGlobally_iff, ← mem_globalNames, globalNames, mem_sortNames]
  apply sortNames_congr
  intro name
  rw [listed, listed, same]

theorem droppedNames_ascending (old : String) (after : Program) :
    (droppedNames (globalNamesOfText old) after).Pairwise (· < ·) := by
  refine List.Pairwise.filter _ ?_
  unfold globalNamesOfText
  cases Program.parse old with
  | error fault => exact .nil
  | ok before => exact sortNames_ascending _

/-! ## The verdict -/

/-- A new text is accepted exactly if it is a program that loses no global name of the old text. A
program that is rejected gets a message with the names it loses, each once and in order. -/
theorem accepted_iff_nothing_lost (old new : String) :
    ((checkScope old new).isAccepted = true ↔ ∃ after, Program.parse new = .ok after ∧
      ∀ name, GlobalIn old name → Global after name ∨ .taken name ∈ after.mentions) ∧
    ∀ after, Program.parse new = .ok after → (checkScope old new).isAccepted = false →
      ∃ names : List String, names.Pairwise (· < ·) ∧ (∀ name, name ∈ names ↔ Lost old after name) ∧
        (checkScope old new).message =
          "CRITICAL SAFETY VIOLATION: Refactor dropped usage of Global Variables: " ++
            Text.quotedList names ++ ". This triggers 'Scope Shadowing' [Edge Case II]." := by
  constructor
  · cases parsed : Program.parse new with
    | error fault => simp [checkScope, parsed, ScopeVerdict.isAccepted]
    | ok after =>
      have rejected : (checkScope old new).isAccepted = false ↔ _ := rejected_iff parsed
      simp only [mem_globalNamesOfText, usesGlobally_iff, takes_iff] at rejected
      rw [← Bool.not_eq_false, rejected]
      simp only [Except.ok.injEq, exists_eq_left', not_exists, not_and, Classical.not_not]
      grind
  · intro after parsed rejected
    refine ⟨droppedNames (globalNamesOfText old) after, droppedNames_ascending old after,
      fun name => mem_dropped_iff, ?_⟩
    simp only [checkScope, parsed] at rejected ⊢
    cases found : droppedNames (globalNamesOfText old) after with
    | nil => simp [found, ScopeVerdict.isAccepted] at rejected
    | cons name names => rfl

def decoratedTotal : String :=
  "@cached\ndef total(prices):\n    return [p * RATE for p in prices], f'in \x7bUNIT\x7d'\n"

def plainTotal : String := "def total(prices, RATE):\n    return [p * RATE for p in prices]\n"

theorem unit_and_decorator_lost :
    (Program.parse plainTotal).isOk = true ∧ (checkScope decoratedTotal plainTotal).isAccepted = false ∧
      ∃ names : List String, "UNIT" ∈ names ∧ "cached" ∈ names ∧ "RATE" ∉ names ∧
        (checkScope decoratedTotal plainTotal).message =
          "CRITICAL SAFETY VIOLATION: Refactor dropped usage of Global Variables: " ++
            Text.quotedList names ++ ". This triggers 'Scope Shadowing' [Edge Case II]." := by
  have beforeFacts : (Program.parse decoratedTotal).isOk = true ∧
      Global (programOf decoratedTotal) "UNIT" ∧ Global (programOf decoratedTotal) "cached" := by
    decide +kernel
  have afterFacts : (Program.parse plainTotal).isOk = true ∧
      ¬ (Global (programOf plainTotal) "UNIT" ∨ .taken "UNIT" ∈ (programOf plainTotal).mentions) ∧
      ¬ (Global (programOf plainTotal) "cached" ∨ .taken "cached" ∈ (programOf plainTotal).mentions) ∧
      .taken "RATE" ∈ (programOf plainTotal).mentions := by
    decide +kernel
  obtain ⟨parsedOld, unit, decorator⟩ := beforeFacts
  obtain ⟨parsedNew, noUnit, noDecorator, rate⟩ := afterFacts
  have old := parse_eq_programOf parsedOld
  have new := parse_eq_programOf parsedNew
  obtain ⟨accepted, listed⟩ := accepted_iff_nothing_lost decoratedTotal plainTotal
  have rejected : (checkScope decoratedTotal plainTotal).isAccepted = false := by
    rw [← Bool.not_eq_true, accepted]
    rintro ⟨after, parsed, kept⟩
    rw [← Except.ok.inj (new.symm.trans parsed)] at kept
    exact noUnit (kept "UNIT" ⟨_, old, unit⟩)
  obtain ⟨names, _, lost, message⟩ := listed _ new rejected
  refine ⟨parsedNew, rejected, names, ?_, ?_, ?_, message⟩
  · exact (lost "UNIT").mpr ⟨⟨_, old, unit⟩, noUnit⟩
  · exact (lost "cached").mpr ⟨⟨_, old, decorator⟩, noDecorator⟩
  · exact fun member => ((lost "RATE").mp member).2 (Or.inr rate)

end Refactory.Analysis
