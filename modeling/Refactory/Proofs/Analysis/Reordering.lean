import Refactory.Proofs.Analysis.KeptNames

/-! Global names of a program by those of its parts, in any order.

The nodes of a program are listed level by level, so those of its statements come mixed. What the
statements mention is mentioned by each of them on its own, and that is all that the global names depend on.
-/

set_option autoImplicit false

namespace Refactory.Source

theorem stmtMentions_append (first second : List Stmt) :
    stmtMentions (first ++ second) = stmtMentions first ++ stmtMentions second := by
  induction first with
  | nil => rfl
  | cons stmt rest ih => simp only [List.cons_append, stmtMentions, ih, List.append_assoc]

theorem mem_stmtMentions_of_perm {body moved : List Stmt} (reordered : body.Perm moved) {mention : Mention} :
    mention ∈ stmtMentions body ↔ mention ∈ stmtMentions moved := by
  induction reordered with
  | nil => rfl
  | cons stmt _ ih => simp only [stmtMentions, List.mem_append, ih]
  | swap first second rest => simp only [stmtMentions, List.mem_append, or_left_comm]
  | trans _ _ earlier later => exact earlier.trans later

def Mention.bound? : Mention → Option String
  | .assigned name | .parameter name | .defined name => some name
  | .read _ | .taken _ => none

end Refactory.Source

namespace Refactory.Analysis

open Source

/-- The names that statements assign, have as parameters, or give to plain functions and classes, at any
depth. -/
def boundNames (body : List Stmt) : List String := (stmtMentions body).filterMap Mention.bound?

theorem mem_boundNames {body : List Stmt} {name : String} :
    name ∈ boundNames body ↔ .assigned name ∈ stmtMentions body ∨ .parameter name ∈ stmtMentions body ∨
      .defined name ∈ stmtMentions body := by
  rw [boundNames, List.mem_filterMap]
  constructor
  · rintro ⟨mention, made, bound⟩
    cases mention <;> cases bound
    · exact Or.inl made
    · exact Or.inr (Or.inl made)
    · exact Or.inr (Or.inr made)
  · rintro (made | made | made)
    · exact ⟨_, made, rfl⟩
    · exact ⟨_, made, rfl⟩
    · exact ⟨_, made, rfl⟩

theorem boundNames_append (first second : List Stmt) :
    boundNames (first ++ second) = boundNames first ++ boundNames second := by
  rw [boundNames, stmtMentions_append, List.filterMap_append]
  rfl

theorem mem_globalNames_iff {body : List Stmt} {name : String} :
    name ∈ globalNames ⟨body⟩ ↔
      .read name ∈ stmtMentions body ∧ name ∉ boundNames body ∧ name ∉ builtinNames := by
  rw [mem_globalNames, usesGlobally_iff, mem_boundNames, not_or, not_or]
  constructor
  · rintro ⟨read, unassigned, noParameter, undefined, own⟩
    exact ⟨read, ⟨unassigned, noParameter, undefined⟩, own⟩
  · rintro ⟨read, ⟨unassigned, noParameter, undefined⟩, own⟩
    exact ⟨read, unassigned, noParameter, undefined, own⟩

/-! ## Parts of a program -/

theorem mem_globalNames_append {first second : List Stmt} {name : String} :
    name ∈ globalNames ⟨first ++ second⟩ ↔ (name ∈ globalNames ⟨first⟩ ∧ name ∉ boundNames second) ∨
      (name ∈ globalNames ⟨second⟩ ∧ name ∉ boundNames first) := by
  simp only [mem_globalNames_iff, stmtMentions_append, boundNames_append, List.mem_append, not_or]
  constructor
  · rintro ⟨read | read, ⟨unbound, elsewhere⟩, own⟩
    · exact Or.inl ⟨⟨read, unbound, own⟩, elsewhere⟩
    · exact Or.inr ⟨⟨read, elsewhere, own⟩, unbound⟩
  · rintro (⟨⟨read, unbound, own⟩, elsewhere⟩ | ⟨⟨read, unbound, own⟩, elsewhere⟩)
    · exact ⟨Or.inl read, ⟨unbound, elsewhere⟩, own⟩
    · exact ⟨Or.inr read, ⟨elsewhere, unbound⟩, own⟩

theorem globalNames_append (first second : List Stmt) :
    globalNames ⟨first ++ second⟩ = sortNames ((globalNames ⟨first⟩).filter (· ∉ boundNames second) ++
      (globalNames ⟨second⟩).filter (· ∉ boundNames first)) := by
  apply sortNames_congr
  intro name
  have whole : name ∈ globalsOf (Program.nodes ⟨first ++ second⟩) ↔ name ∈ globalNames ⟨first ++ second⟩ :=
    mem_sortNames.symm
  simp only [whole, mem_globalNames_append, List.mem_append, List.mem_filter, decide_eq_true_eq]

/-! ## Statements in another order -/

section Reordered

variable {body moved : List Stmt} (reordered : body.Perm moved)

include reordered

theorem globalNames_of_perm : globalNames ⟨body⟩ = globalNames ⟨moved⟩ := by
  have made {mention : Mention} : mention ∈ stmtMentions body ↔ mention ∈ stmtMentions moved :=
    mem_stmtMentions_of_perm reordered
  have bound (name : String) : name ∈ boundNames body ↔ name ∈ boundNames moved := by
    simp only [mem_boundNames, made]
  apply sortNames_congr
  intro name
  have listed (statements : List Stmt) : name ∈ globalsOf (Program.nodes ⟨statements⟩) ↔
      name ∈ globalNames ⟨statements⟩ := mem_sortNames.symm
  rw [listed, listed, mem_globalNames_iff, mem_globalNames_iff, made, bound]

theorem droppedNames_of_perm (before : List String) :
    droppedNames before ⟨body⟩ = droppedNames before ⟨moved⟩ := by
  have taken (name : String) : name ∈ (Program.nodes ⟨body⟩).flatMap positionalParameters ↔
      name ∈ (Program.nodes ⟨moved⟩).flatMap positionalParameters := by
    rw [mem_taken_iff, mem_taken_iff, takes_iff, takes_iff]
    exact mem_stmtMentions_of_perm reordered
  unfold droppedNames
  apply List.filter_congr
  intro name _
  simp only [List.contains_eq_mem, List.mem_append, taken, globalNames_of_perm reordered]

end Reordered

/-- The global names of a program in two parts are those of either part that the other one does not bind.
And the verdict on two texts is the same for texts with their statements in another order. -/
theorem globals_by_parts_in_any_order :
    (∀ first second : List Stmt, globalNames ⟨first ++ second⟩ =
      sortNames ((globalNames ⟨first⟩).filter (· ∉ boundNames second) ++
        (globalNames ⟨second⟩).filter (· ∉ boundNames first))) ∧
    ∀ (text other : String) (body moved : List Stmt), Program.parse text = .ok ⟨body⟩ →
      Program.parse other = .ok ⟨moved⟩ → body.Perm moved →
      globalNamesOfText text = globalNamesOfText other ∧
        (∀ new, checkScope text new = checkScope other new) ∧
        ∀ old, checkScope old text = checkScope old other := by
  refine ⟨globalNames_append, fun text other body moved parsed reparsed reordered => ?_⟩
  have globals : globalNamesOfText text = globalNamesOfText other := by
    simp only [globalNamesOfText, parsed, reparsed, globalNames_of_perm reordered]
  refine ⟨globals, fun new => ?_, fun old => ?_⟩
  · simp only [checkScope, globals]
  · simp only [checkScope, parsed, reparsed, droppedNames_of_perm reordered]

/-! ## Two copies in either order -/

def copying (target source : String) : Stmt := .assign [.name target .store] (.name source .load)

def copied? : Stmt → Option (String × String)
  | .assign [.name target .store] (.name source .load) => some (target, source)
  | _ => none

theorem eq_copying {stmt : Stmt} {target source : String} (found : copied? stmt = some (target, source)) :
    stmt = copying target source := by
  unfold copied? at found
  split at found
  · cases found
    rfl
  · cases found

theorem parse_copying {text target source later earlier : String}
    (read : (Program.parse text).toOption.map (·.body.map copied?) =
      some [some (target, source), some (later, earlier)]) :
    Program.parse text = .ok ⟨[copying target source, copying later earlier]⟩ := by
  cases parsed : Program.parse text with
  | error fault =>
    rw [parsed] at read
    cases read
  | ok program =>
    obtain ⟨body⟩ := program
    rw [parsed] at read
    have lines : body.map copied? = [some (target, source), some (later, earlier)] := Option.some.inj read
    obtain ⟨first, rest, rfl, found, others⟩ := List.map_eq_cons_iff.mp lines
    obtain ⟨second, none_left, rfl, foundNext, ended⟩ := List.map_eq_cons_iff.mp others
    rw [List.map_eq_nil_iff.mp ended, eq_copying found, eq_copying foundNext]

def shareText : String := "total = RATE\nshare = total\n"

def movedShareText : String := "share = total\ntotal = RATE\n"

theorem share_in_either_order :
    globalNamesOfText shareText = ["RATE"] ∧ globalNamesOfText movedShareText = ["RATE"] ∧
      checkScope shareText movedShareText = checkScope movedShareText shareText := by
  have lines : (Program.parse shareText).toOption.map (·.body.map copied?) =
        some [some ("total", "RATE"), some ("share", "total")] ∧
      (Program.parse movedShareText).toOption.map (·.body.map copied?) =
        some [some ("share", "total"), some ("total", "RATE")] := by decide +kernel
  have parsed := parse_copying lines.1
  have reparsed := parse_copying lines.2
  obtain ⟨parts, orders⟩ := globals_by_parts_in_any_order
  obtain ⟨same, asOld, asNew⟩ := orders _ _ _ _ parsed reparsed (.swap _ _ _)
  have globals : globalNamesOfText shareText = ["RATE"] := by
    have alone : globalNames ⟨[copying "total" "RATE"]⟩ = ["RATE"] ∧
        globalNames ⟨[copying "share" "total"]⟩ = ["total"] := by decide +kernel
    have split := parts [copying "total" "RATE"] [copying "share" "total"]
    rw [alone.1, alone.2] at split
    simp only [globalNamesOfText, parsed]
    refine split.trans ?_
    decide +kernel
  refine ⟨globals, same ▸ globals, ?_⟩
  rw [asOld movedShareText, ← asNew movedShareText]

end Refactory.Analysis
