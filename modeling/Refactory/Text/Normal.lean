import Refactory.Text.Decomposition
import Refactory.Text.Composition

/-! The compatibility normal form of identifiers: decompose, put marks in order, compose.

Two spellings name the same thing exactly when their normal forms agree.
-/

set_option autoImplicit false

namespace Refactory.Text

/-- Hangul syllables are numbered from here by leading consonant, vowel and trailing consonant. -/
def hangulBase : Nat := 0xAC00
def hangulLeads : Nat := 0x1100
def hangulVowels : Nat := 0x1161
def hangulTails : Nat := 0x11A7

def decomposeHangul? (code : Nat) : Option (List Nat) :=
  if hangulBase ≤ code ∧ code < hangulBase + 11172 then
    let syllable := code - hangulBase
    let pair := [hangulLeads + syllable / 588, hangulVowels + syllable % 588 / 28]
    some (if syllable % 28 = 0 then pair else pair ++ [hangulTails + syllable % 28])
  else none

def imageInRuns? (runs : List (Nat × Nat × Nat)) (code : Nat) : Option Nat :=
  runs.findSome? fun (first, last, image) =>
    if first ≤ code ∧ code ≤ last then some (image + (code - first)) else none

def decompose (code : Nat) : List Nat :=
  if code < 128 then [code]
  else match decomposeHangul? code with
    | some parts => parts
    -- decompositions are looked up in full, so one step is enough
    | none => match imageInRuns? singleDecompositions code with
      | some image => [image]
      | none => (longDecompositions.lookup code).getD [code]

def combiningClass (code : Nat) : Nat :=
  if code < 128 then 0
  else (combiningClasses.findSome? fun (first, last, order) =>
    if first ≤ code ∧ code ≤ last then some order else none).getD 0

/-- Marks after a base stand in the order of their classes; marks of one class keep theirs. -/
def orderMarks (marks : List Nat) : List Nat → List Nat
  | [] => sorted marks
  | code :: rest =>
      if combiningClass code = 0 then sorted marks ++ code :: orderMarks [] rest
      else orderMarks (marks ++ [code]) rest
where
  sorted (marks : List Nat) : List Nat :=
    marks.mergeSort fun left right => combiningClass left ≤ combiningClass right

def composeHangul? (first second : Nat) : Option Nat :=
  if hangulLeads ≤ first ∧ first < hangulLeads + 19 ∧
      hangulVowels ≤ second ∧ second < hangulVowels + 21 then
    some (hangulBase + (first - hangulLeads) * 588 + (second - hangulVowels) * 28)
  else if hangulBase ≤ first ∧ first < hangulBase + 11172 ∧ (first - hangulBase) % 28 = 0 ∧
      hangulTails < second ∧ second < hangulTails + 28 then
    some (first + (second - hangulTails))
  else none

def composePair? (first second : Nat) : Option Nat :=
  match composeHangul? first second with
  | some whole => some whole
  | none => composites.findSome? fun (left, right, whole) =>
      if left = first ∧ right = second then some whole else none

/-- Compose a base with the marks after it. `kept` holds the marks that stay, latest first, and a
mark is blocked when one of its class or a higher one was kept before it. -/
def composeFrom (base : Nat) (kept : List Nat) : List Nat → List Nat
  | [] => base :: kept.reverse
  | code :: rest =>
      let order := combiningClass code
      let free := match kept with
        | [] => true
        | last :: _ => combiningClass last < order
      match if free then composePair? base code else none with
      | some whole => composeFrom whole kept rest
      | none =>
          -- another base ends this one
          if order = 0 then base :: kept.reverse ++ composeFrom code [] rest
          else composeFrom base (code :: kept) rest

def compose : List Nat → List Nat
  | [] => []
  | base :: rest => composeFrom base [] rest

def normalForm (text : String) : String :=
  let chars := text.toList
  if chars.all (·.toNat < 128) then text
  else String.ofList ((compose (orderMarks [] (chars.flatMap (decompose ·.toNat)))).map Char.ofNat)

/-! ## A normal form holds something -/

theorem longDecompositions_ne_nil : ∀ entry ∈ longDecompositions, entry.2 ≠ [] := by
  decide +kernel

theorem getD_lookup_ne_nil {table : List (Nat × List Nat)} (filled : ∀ entry ∈ table, entry.2 ≠ [])
    (code : Nat) : (table.lookup code).getD [code] ≠ [] := by
  induction table with
  | nil => simp
  | cons entry rest ih =>
    rw [List.lookup_cons]
    split
    · exact filled entry List.mem_cons_self
    · exact ih fun entry member => filled entry (List.mem_cons_of_mem _ member)

theorem decomposeHangul?_ne_nil {code : Nat} {parts : List Nat}
    (found : decomposeHangul? code = some parts) : parts ≠ [] := by
  unfold decomposeHangul? at found
  split at found
  · rw [← Option.some.inj found]
    split <;> simp
  · cases found

theorem decompose_ne_nil (code : Nat) : decompose code ≠ [] := by
  unfold decompose
  split
  · simp
  · split
    · rename_i hangul
      exact decomposeHangul?_ne_nil hangul
    · split
      · simp
      · exact getD_lookup_ne_nil longDecompositions_ne_nil code

theorem orderMarks_ne_nil (marks codes : List Nat) (nonempty : marks ++ codes ≠ []) :
    orderMarks marks codes ≠ [] := by
  fun_induction orderMarks marks codes with
  | case1 marks =>
    rw [List.append_nil] at nonempty
    unfold orderMarks.sorted
    simpa [← List.length_pos_iff] using nonempty
  | case2 marks code rest base ih => simp
  | case3 marks code rest mark ih => exact ih (by simp)

theorem composeFrom_ne_nil (base : Nat) (kept codes : List Nat) : composeFrom base kept codes ≠ [] := by
  induction codes generalizing base kept with
  | nil => simp [composeFrom]
  | cons code rest ih =>
    unfold composeFrom
    dsimp only
    split
    · exact ih _ _
    · split
      · simp
      · exact ih _ _

theorem compose_ne_nil {codes : List Nat} (nonempty : codes ≠ []) : compose codes ≠ [] := by
  cases codes with
  | nil => exact absurd rfl nonempty
  | cons base rest => exact composeFrom_ne_nil base [] rest

theorem normalForm_ne_empty {text : String} (nonempty : text ≠ "") : normalForm text ≠ "" := by
  unfold normalForm
  dsimp only
  split
  · exact nonempty
  · -- the first character leaves a part, and nothing is lost in ordering and composing
    obtain ⟨first, rest, chars⟩ := List.exists_cons_of_ne_nil
      (mt String.toList_eq_nil_iff.mp nonempty)
    have parts : text.toList.flatMap (decompose ·.toNat) ≠ [] := by
      rw [chars, List.flatMap_cons]
      exact List.append_ne_nil_of_left_ne_nil (decompose_ne_nil _) _
    rw [Ne, String.ofList_eq_empty_iff, List.map_eq_nil_iff]
    exact compose_ne_nil (orderMarks_ne_nil [] _ parts)

end Refactory.Text
