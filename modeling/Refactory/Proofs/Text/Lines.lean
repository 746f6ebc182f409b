import Refactory.Proofs.Text.Blank
import Refactory.Text.Lines
import Refactory.Text.Search

/-! Line ends of texts that are put together, and line ends by replacement. -/

set_option autoImplicit false

namespace Refactory.Text

/-- The characters that follow a given one, with their line ends unified. -/
def unifyAfter (before : Char) (chars : List Char) : List Char :=
  ((before :: chars).zip chars).filterMap unifyLineEnd

theorem unifyLineEnds_eq (chars : List Char) : unifyLineEnds chars = unifyAfter '\n' chars := rfl

@[simp] theorem unifyAfter_nil (before : Char) : unifyAfter before [] = [] := rfl

@[simp] theorem unifyAfter_cons (before c : Char) (rest : List Char) :
    unifyAfter before (c :: rest) = (unifyLineEnd (before, c)).toList ++ unifyAfter c rest := by
  simp only [unifyAfter, List.zip_cons_cons, List.filterMap_cons]
  cases unifyLineEnd (before, c) <;> rfl

theorem unifyAfter_append (before : Char) (first second : List Char) :
    unifyAfter before (first ++ second) =
      unifyAfter before first ++ unifyAfter (first.getLastD before) second := by
  induction first generalizing before with
  | nil => rfl
  | cons c rest ih =>
    rw [List.cons_append, unifyAfter_cons, unifyAfter_cons, ih c, List.append_assoc,
      List.getLastD_cons]

theorem unifyAfter_of_ne {before other : Char} {chars : List Char} (border : chars.head? ≠ some '\n') :
    unifyAfter before chars = unifyAfter other chars := by
  cases chars with
  | nil => rfl
  | cons c rest =>
    have no_feed : c ≠ '\n' := fun same => border (by simp [same])
    simp [unifyLineEnd, no_feed]

/-- A text that begins with something else than a line feed is unified on its own. -/
theorem unifyLineEnds_append {first second : List Char} (border : second.head? ≠ some '\n') :
    unifyLineEnds (first ++ second) = unifyLineEnds first ++ unifyLineEnds second := by
  simp only [unifyLineEnds_eq, unifyAfter_append]
  rw [unifyAfter_of_ne border]

theorem unifyLineEnds_of_no_return {chars : List Char} (free : '\r' ∉ chars) :
    unifyLineEnds chars = chars := by
  have all (before : Char) (outside : before ≠ '\r') : unifyAfter before chars = chars := by
    induction chars generalizing before with
    | nil => rfl
    | cons c rest ih =>
      have here : c ≠ '\r' := fun same => free (same ▸ List.mem_cons_self)
      simp [unifyLineEnd, here, outside, ih (List.not_mem_of_not_mem_cons free) c here]
  exact all '\n' (by decide)

theorem unifyLineEnds_concat (chars : List Char) (c : Char) :
    unifyLineEnds (chars ++ [c]) =
      unifyLineEnds chars ++ (unifyLineEnd (chars.getLastD '\n', c)).toList := by
  simp [unifyLineEnds_eq, unifyAfter_append]

theorem allBlank_unifyAfter {before : Char} {chars : List Char} (blanks : AllBlank chars) :
    AllBlank (unifyAfter before chars) := by
  induction chars generalizing before with
  | nil => exact blanks
  | cons c rest ih =>
    have later := @ih c fun d member => blanks d (List.mem_cons_of_mem c member)
    intro d member
    rw [unifyAfter_cons, List.mem_append, Option.mem_toList] at member
    rcases member with now | after
    · simp only [unifyLineEnd] at now
      split at now
      · cases now
        decide
      · split at now
        · cases now
        · cases now
          exact blanks c List.mem_cons_self
    · exact later d after

theorem unifyLineEnds_solid (chars : List Char) {c : Char} (solid : isBlank c = false) :
    unifyLineEnds (chars ++ [c]) = unifyLineEnds chars ++ [c] := by
  have apart {other : Char} (blank : isBlank other = true) : c ≠ other := (ne_of_isBlank blank solid).symm
  rw [unifyLineEnds_concat, unifyLineEnd, if_neg (apart (by decide)), if_neg fun both => apart (by decide) both.1]
  rfl

/-! ## Replacement -/

theorem replaceFrom_single (old new : Char) (chars : List Char) :
    replaceFrom [old] [new] 0 chars = chars.map fun c => if c = old then new else c := by
  induction chars with
  | nil => rfl
  | cons c rest ih =>
    rw [replaceFrom, List.map_cons]
    by_cases same : c = old
    · subst same
      simp [ih]
    · have other : ¬ old = c := fun equal => same equal.symm
      simp [same, other, ih]

/-- Where a return begins a pair, the feed after it is passed over. -/
theorem replaceFrom_pair (c : Char) (rest : List Char) : replaceFrom ['\r', '\n'] ['\n'] 0 (c :: rest) =
    if c = '\r' ∧ rest.head? = some '\n' then '\n' :: replaceFrom ['\r', '\n'] ['\n'] 1 rest
    else c :: replaceFrom ['\r', '\n'] ['\n'] 0 rest := by
  have begins : ['\r', '\n'].isPrefixOf (c :: rest) = true ↔ c = '\r' ∧ rest.head? = some '\n' := by
    cases rest <;> simp [List.isPrefixOf, eq_comm (b := c), eq_comm (a := '\n')]
  rw [replaceFrom]
  by_cases pair : c = '\r' ∧ rest.head? = some '\n'
  · rw [if_pos (begins.mpr pair), if_pos pair]
    rfl
  · rw [if_neg (mt begins.mp pair), if_neg pair]

/-- Line ends are unified by replacing pairs of return and feed, and then the other returns. -/
theorem replaceFrom_lineEnds (chars : List Char) :
    replaceFrom ['\r'] ['\n'] 0 (replaceFrom ['\r', '\n'] ['\n'] 0 chars) = unifyLineEnds chars := by
  rw [replaceFrom_single, unifyLineEnds_eq]
  have all : (∀ before, before ≠ '\r' → (replaceFrom ['\r', '\n'] ['\n'] 0 chars).map
        (fun c => if c = '\r' then '\n' else c) = unifyAfter before chars) ∧
      (chars.head? = some '\n' → (replaceFrom ['\r', '\n'] ['\n'] 1 chars).map
        (fun c => if c = '\r' then '\n' else c) = unifyAfter '\r' chars) := by
    induction chars with
    | nil => simp [replaceFrom]
    | cons c rest ih =>
      obtain ⟨single, paired⟩ := ih
      refine ⟨fun before outside => ?_, fun feed => ?_⟩
      · rw [replaceFrom_pair]
        by_cases ends : c = '\r'
        · subst ends
          by_cases pair : rest.head? = some '\n'
          · simp [pair, unifyLineEnd, paired pair]
          · simp [pair, unifyLineEnd, single '\n' (by decide), @unifyAfter_of_ne '\r' '\n' rest pair]
        · simp [ends, outside, unifyLineEnd, single c ends]
      · obtain rfl : c = '\n' := by simpa using feed
        rw [replaceFrom, single '\n' (by decide)]
        simp [unifyLineEnd]
  exact all.1 '\n' (by decide)

theorem replace_lineEnds (text : String) :
    replace (replace text "\r\n" "\n") "\r" "\n" = String.ofList (unifyLineEnds text.toList) := by
  rw [replace, replace]
  repeat rw [String.toList_ofList]
  rw [replaceFrom_lineEnds]

end Refactory.Text
