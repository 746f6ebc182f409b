import Refactory.Json.Reader
import Refactory.Proofs.Json.Normal
import Refactory.Proofs.Json.Numbers
import Refactory.Proofs.Json.Strings

/-! A value that is written as JSON is read back in its normal form.

Each kind of value is read back from its own text, whatever follows that no number could go on with;
for lists and dictionaries this rests on the texts of the items. It holds in every layout and at every
level.
-/

set_option autoImplicit false

namespace Refactory.Json

/-- A text is read as the given, whatever follows that no number could go on with. -/
def Reads {α : Type} (read : List Char → Except Stop (α × List Char)) (text : List Char) (found : α) : Prop :=
  ∀ rest, EndsNumber rest → read (text ++ rest) = .ok (found, rest)

theorem EndsNumber.of_head {c : Char} (noDigit : c.isDigit = false) (noPoint : c ≠ '.')
    (noMark : c ≠ 'e' ∧ c ≠ 'E') (rest : List Char) : EndsNumber (c :: rest) := by
  refine ⟨fun first head => ?_, fun head => noPoint (Option.some.inj head), fun first head => ?_⟩
  · rwa [← Option.some.inj head]
  · rwa [← Option.some.inj head]

theorem EndsNumber.nil : EndsNumber [] :=
  ⟨by simp [NoDigit], by simp, by simp⟩

/-! ## Blanks -/

def Opens (text : List Char) : Prop :=
  ∃ first more, text = first :: more ∧ isSpace first = false

theorem skipSpace_blank {blank text : List Char} (all : ∀ c ∈ blank, isSpace c = true) (opens : Opens text)
    (rest : List Char) : skipSpace (blank ++ (text ++ rest)) = text ++ rest := by
  obtain ⟨first, more, rfl, visible⟩ := opens
  rw [skipSpace, List.dropWhile_append_of_pos all, List.cons_append, List.dropWhile_cons_of_neg (by simp [visible])]

theorem skipSpace_of_visible {c : Char} (visible : isSpace c = false) {blank : List Char}
    (all : ∀ c ∈ blank, isSpace c = true) (rest : List Char) :
    skipSpace (blank ++ c :: rest) = c :: rest :=
  skipSpace_blank all ⟨c, [], rfl, visible⟩ rest

theorem break_blank (layout : Layout) (level : Nat) : ∀ c ∈ layout.break level, isSpace c = true := by
  intro c member
  cases layout with
  | line => cases member
  | lines step =>
    rcases List.mem_cons.mp member with rfl | blank
    · rfl
    · rw [List.eq_of_mem_replicate blank]
      rfl

theorem separator_eq (layout : Layout) (level : Nat) :
    ∃ blank, layout.separator level = ',' :: blank ∧ ∀ c ∈ blank, isSpace c = true := by
  cases layout with
  | line => exact ⟨[' '], rfl, List.all_eq_true.mp (by decide)⟩
  | lines step => exact ⟨_, rfl, break_blank (.lines step) level⟩

/-! ## Items one after another -/

def IsClosing (c : Char) : Prop := c = ']' ∨ c = '\x7d'

theorem endsNumber_closing {closing : Char} (bracket : IsClosing closing) (layout : Layout) (level : Nat)
    (rest : List Char) : EndsNumber (layout.break level ++ closing :: rest) := by
  cases layout with
  | line => rcases bracket with rfl | rfl <;> exact .of_head rfl (by decide) (by decide) rest
  | lines step => exact .of_head rfl (by decide) (by decide) _

theorem opens_intercalate (separator : List Char) {text : List Char} (opens : Opens text)
    (others : List (List Char)) : Opens (List.intercalate separator (text :: others)) := by
  obtain ⟨c, more, rfl, shown⟩ := opens
  exact ⟨c, _, List.intercalate_cons_cons_left, shown⟩

theorem length_le_intercalate (separator : List Char) {text : List Char} {texts : List (List Char)}
    (member : text ∈ texts) : text.length ≤ (List.intercalate separator texts).length := by
  induction texts with
  | nil => cases member
  | cons first others ih =>
    cases others with
    | nil =>
      exact Nat.le_of_eq (by rw [List.mem_singleton.mp member, List.intercalate_singleton])
    | cons second others =>
      rw [List.intercalate_cons_cons, List.length_append, List.length_append]
      rcases List.mem_cons.mp member with rfl | later
      · omega
      · have bound := ih later
        omega

theorem length_lt_enclosed (layout : Layout) (level : Nat) (opening closing : Char) {text : List Char}
    {texts : List (List Char)} (member : text ∈ texts) :
    text.length + 1 < (enclosed layout level opening closing texts).length := by
  have bound := length_le_intercalate (layout.separator (level + 1)) member
  have some_text : texts.isEmpty = false := by simpa using List.ne_nil_of_mem member
  simp only [enclosed, some_text, Bool.false_eq_true, if_false, List.length_cons, List.length_append]
  omega

theorem length_le_commas (blank : List Char) (texts : List (List Char)) :
    texts.length ≤ (List.intercalate (',' :: blank) texts).length + 1 := by
  induction texts with
  | nil => exact Nat.zero_le _
  | cons first others ih =>
    cases others with
    | nil => exact Nat.succ_le_succ (Nat.zero_le _)
    | cons second others =>
      rw [List.intercalate_cons_cons, List.length_append, List.length_append]
      simp only [List.length_cons] at ih ⊢
      omega

theorem ok_bind {α β : Type} (found : α) (next : α → Except Stop β) :
    (Except.ok found >>= next) = next found := rfl

section Items

variable {α β : Type} {closing : Char} {read : List Char → Except Stop (α × List Char)}

theorem readMany_last {text gap rest : List Char} {found : α} (bound : Nat) (visible : isSpace closing = false)
    (reads : read (text ++ (gap ++ closing :: rest)) = .ok (found, gap ++ closing :: rest))
    (all : ∀ c ∈ gap, isSpace c = true) :
    readMany closing read (bound + 1) (text ++ (gap ++ closing :: rest)) = .ok ([found], rest) := by
  rw [readMany, reads, ok_bind]
  dsimp only
  rw [skipSpace_of_visible visible all]
  exact if_pos rfl

theorem readMany_more {text blank rest : List Char} {found : α} (bound : Nat) (comma : ',' ≠ closing)
    (reads : read (text ++ ',' :: (blank ++ rest)) = .ok (found, ',' :: (blank ++ rest)))
    (skipped : skipSpace (blank ++ rest) = rest) :
    readMany closing read (bound + 1) (text ++ ',' :: (blank ++ rest)) =
      (readMany closing read bound rest).map fun (others, rest) => (found :: others, rest) := by
  rw [readMany, reads]
  change (if ',' = closing then _ else if ',' = ',' then
    readMany closing read bound (skipSpace (blank ++ rest)) >>= _ else _) = _
  rw [if_neg comma, if_pos rfl, skipped]
  cases readMany closing read bound rest <;> rfl

/-- Items that are read one by one are read together. -/
theorem readMany_joined (bracket : IsClosing closing) (layout : Layout) (level outer : Nat) (rest : List Char)
    (text : β → List Char) (found : β → α) {items : List β} (some_item : items ≠ [])
    (each : ∀ item ∈ items, Reads read (text item) (found item) ∧ Opens (text item)) {bound : Nat}
    (enough : items.length ≤ bound) :
    readMany closing read bound
        (List.intercalate (layout.separator level) (items.map text) ++ (layout.break outer ++ closing :: rest)) =
      .ok (items.map found, rest) := by
  have visible : isSpace closing = false := by rcases bracket with rfl | rfl <;> rfl
  have comma : ',' ≠ closing := by rcases bracket with rfl | rfl <;> decide
  obtain ⟨blank, separates, all⟩ := separator_eq layout level
  rw [separates]
  induction items generalizing bound with
  | nil => exact absurd rfl some_item
  | cons first others ih =>
    obtain ⟨fuel, rfl⟩ : ∃ fuel, bound = fuel + 1 := ⟨bound - 1, by rw [List.length_cons] at enough; omega⟩
    have reads := (each first List.mem_cons_self).1
    have later (item : β) (member : item ∈ others) := each item (List.mem_cons_of_mem first member)
    -- the last item stands before the bracket, any other before a comma
    cases others with
    | nil =>
      rw [List.map_singleton, List.intercalate_singleton]
      exact readMany_last fuel visible (reads _ (endsNumber_closing bracket layout outer rest))
        (break_blank layout outer)
    | cons second others =>
      rw [List.map_cons, List.map_cons, List.intercalate_cons_cons, ← List.map_cons, List.append_assoc,
        List.append_assoc, List.cons_append]
      have opens : Opens (List.intercalate (',' :: blank) ((second :: others).map text)) :=
        opens_intercalate _ (later second List.mem_cons_self).2 _
      rw [readMany_more fuel comma (reads _ (.of_head rfl (by decide) (by decide) _)) (skipSpace_blank all opens _)]
      exact congrArg (Except.map _) (ih (by simp) later (by rw [List.length_cons] at enough; omega))

/-- Items in brackets: after the bracket and the blanks behind it all items are read. -/
theorem readMany_enclosed (bracket : IsClosing closing) (layout : Layout) (level : Nat) (opening : Char)
    (rest : List Char) (text : β → List Char) (found : β → α) {items : List β} (some_item : items ≠ [])
    (each : ∀ item ∈ items, Reads read (text item) (found item) ∧ Opens (text item)) :
    ∃ inside shown, enclosed layout level opening closing (items.map text) ++ rest = opening :: inside ∧
      skipSpace inside = shown ∧ (∃ item ∈ items, shown.head? = (text item).head?) ∧
      readMany closing read (shown.length + 1) shown = .ok (items.map found, rest) := by
  have together (bound : Nat) (enough : items.length ≤ bound) :=
    readMany_joined bracket layout (level + 1) level rest text found some_item each enough
  obtain ⟨blank, separates, all⟩ := separator_eq layout (level + 1)
  have count := length_le_commas blank (items.map text)
  obtain ⟨first, others, rfl⟩ := List.exists_cons_of_ne_nil some_item
  have opens := (each first List.mem_cons_self).2
  have joined : Opens (List.intercalate (layout.separator (level + 1)) ((first :: others).map text)) :=
    opens_intercalate _ opens _
  refine ⟨layout.break (level + 1) ++ (List.intercalate (layout.separator (level + 1)) ((first :: others).map text)
      ++ (layout.break level ++ closing :: rest)), _, by simp [enclosed],
    skipSpace_blank (break_blank _ _) joined _, ⟨first, List.mem_cons_self, ?_⟩, together _ ?_⟩
  · obtain ⟨c, more, begins, _⟩ := opens
    rw [List.map_cons, begins, List.intercalate_cons_cons_left]
    rfl
  · -- the characters outnumber the items, by the commas between them and the bracket
    rw [List.length_map] at count
    rw [separates, List.length_append]
    omega

end Items

/-! ## Values -/

/-- The value is read as the other one from its text, in every layout and at every level. -/
def ReadsAs (value found : Value) : Prop :=
  ∀ layout level depth, (chars layout level value).length < depth →
    Reads (readValue depth) (chars layout level value) found

section Texts

variable (layout : Layout) (level : Nat)

theorem chars_none : chars layout level .none = "null".toList := rfl

theorem chars_bool (value : Bool) : chars layout level (.bool value) = (if value then "true" else "false").toList :=
  rfl

theorem chars_int (value : Int) : chars layout level (.int value) = number (.int value) := rfl

theorem chars_float (value : Float) : chars layout level (.float value) = number (.float value) := rfl

theorem chars_text (value : String) : chars layout level (.text value) = string value := rfl

theorem chars_list (items : List Value) :
    chars layout level (.list items) = enclosed layout level '[' ']' (itemChars layout (level + 1) items) := rfl

theorem chars_dict (entries : List (Key × Value)) : chars layout level (.dict entries) =
    enclosed layout level '\x7b' '\x7d' (entryChars layout (level + 1) entries) := rfl

end Texts

/-- No value begins with a blank, a closing bracket or a byte order mark. -/
theorem readValue_opens {depth : Nat} {start : List Char} {result : Value × List Char}
    (read : readValue depth start = .ok result) :
    ∃ first more, start = first :: more ∧ isSpace first = false ∧ first ≠ ']' ∧ first ≠ '\ufeff' := by
  cases depth with
  | zero => cases read
  | succ depth =>
    cases start with
    | nil => cases read
    | cons first more =>
      have stops (c : Char) (bad : c ∈ [' ', '\t', '\n', '\r', ']', '\ufeff']) : first ≠ c := by
        rintro rfl
        simp only [List.mem_cons, List.not_mem_nil, or_false] at bad
        -- none of these begins a word or a number
        rcases bad with rfl | rfl | rfl | rfl | rfl | rfl <;> cases read
      refine ⟨first, more, rfl, ?_, stops _ (by simp), stops _ (by simp)⟩
      simp [isSpace, stops]

theorem ReadsAs.opens {value found : Value} (reads : ReadsAs value found) (layout : Layout) (level : Nat) :
    ∃ first more, chars layout level value = first :: more ∧ isSpace first = false ∧ first ≠ ']' ∧
      first ≠ '\ufeff' := by
  have read := reads layout level _ (Nat.lt_succ_self _) [] .nil
  rw [List.append_nil] at read
  exact readValue_opens read

theorem readValue_atom (depth : Nat) {start : List Char} {result : Value × List Char}
    (read : readAtom start = .ok result) : readValue (depth + 1) start = .ok result := by
  unfold readValue
  split
  · cases read
  · cases read
  · cases read
  · exact read

theorem readsAs_atom {value found : Value} {text : List Char}
    (spelled : ∀ layout level, chars layout level value = text) (read : Reads readAtom text found) :
    ReadsAs value found := by
  intro layout level depth enough rest ends
  obtain ⟨fuel, rfl⟩ := Nat.exists_eq_succ_of_ne_zero (Nat.ne_zero_of_lt enough)
  rw [spelled]
  exact readValue_atom fuel (read rest ends)

theorem readsAs_none : ReadsAs .none .none :=
  readsAs_atom chars_none fun _ _ => rfl

theorem readsAs_bool (value : Bool) : ReadsAs (.bool value) (.bool value) := by
  refine readsAs_atom (chars_bool · · value) fun _ _ => ?_
  cases value <;> rfl

theorem readsAs_int {value : Int} (short : IsShort value) : ReadsAs (.int value) (.int value) :=
  readsAs_atom (chars_int · · value) fun _ ends => readAtom_int short ends

theorem readsAs_float (value : Float) : ∃ found, ReadsAs (.float value) (.float found) := by
  obtain ⟨found, read⟩ := readAtom_float value
  exact ⟨found, readsAs_atom (chars_float · · value) read⟩

theorem readsAs_text (value : String) : ReadsAs (.text value) (.text value) := by
  intro layout level depth enough rest _
  obtain ⟨fuel, rfl⟩ := Nat.exists_eq_succ_of_ne_zero (Nat.ne_zero_of_lt enough)
  rw [chars_text, string, List.cons_append, List.append_assoc, readValue, List.singleton_append, readString_string]
  rfl

/-! ## Lists and dictionaries -/

theorem readValue_list {depth : Nat} {inside text : List Char} (skipped : skipSpace inside = text)
    (some_item : text.head? ≠ some ']') :
    readValue (depth + 1) ('[' :: inside) =
      (readMany ']' (readValue depth) (text.length + 1) text).map fun (items, rest) => (.list items, rest) := by
  rw [readValue, skipped]
  split
  · exact absurd rfl some_item
  · cases readMany ']' (readValue depth) (text.length + 1) text <;> rfl

theorem readValue_dict {depth : Nat} {inside text : List Char} (skipped : skipSpace inside = text)
    (some_entry : text.head? ≠ some '\x7d') :
    readValue (depth + 1) ('\x7b' :: inside) =
      (readMany '\x7d' (readEntry (readValue depth)) (text.length + 1) text).map fun (entries, rest) =>
        (.ofEntries entries, rest) := by
  rw [readValue, skipped]
  split
  · exact absurd rfl some_entry
  · cases readMany '\x7d' (readEntry (readValue depth)) (text.length + 1) text <;> rfl

theorem itemChars_eq_map (layout : Layout) (level : Nat) (items : List Value) :
    itemChars layout level items = items.map (chars layout level) := by
  induction items with
  | nil => rfl
  | cons item rest ih => rw [itemChars, ih, List.map_cons]

def entryText (layout : Layout) (level : Nat) (entry : Key × Value) : List Char :=
  string (keyName entry.1) ++ ':' :: ' ' :: chars layout level entry.2

theorem entryChars_eq_map (layout : Layout) (level : Nat) (entries : List (Key × Value)) :
    entryChars layout level entries = entries.map (entryText layout level) := by
  induction entries with
  | nil => rfl
  | cons entry rest ih => rw [entryChars, ih, keyText_eq_keyName, List.map_cons, entryText]

/-- A list is read from the texts of its items. -/
theorem ReadsAs.list (items : List (Value × Value)) (each : ∀ item ∈ items, ReadsAs item.1 item.2) :
    ReadsAs (.list (items.map Prod.fst)) (.list (items.map Prod.snd)) := by
  intro layout level depth enough rest _
  obtain ⟨fuel, rfl⟩ := Nat.exists_eq_succ_of_ne_zero (Nat.ne_zero_of_lt enough)
  rw [chars_list, itemChars_eq_map, List.map_map] at enough ⊢
  by_cases none : items = []
  · subst none
    rfl
  · have opens (item : Value × Value) (listed : item ∈ items) := (each item listed).opens layout (level + 1)
    have pieces : ∀ item ∈ items, Reads (readValue fuel) ((chars layout (level + 1) ∘ Prod.fst) item) item.2 ∧
        Opens ((chars layout (level + 1) ∘ Prod.fst) item) := fun item listed => by
      obtain ⟨c, more, begins, shown, _⟩ := opens item listed
      -- an item is shorter than the list, so the depth that is left is enough for it
      have member := List.mem_map_of_mem (f := chars layout (level + 1) ∘ Prod.fst) listed
      have inner := length_lt_enclosed layout level '[' ']' member
      exact ⟨each item listed layout (level + 1) fuel (Nat.lt_of_succ_lt_succ (Nat.lt_trans inner enough)),
        c, more, begins, shown⟩
    obtain ⟨inside, shown, spelled, skipped, ⟨item, listed, begins⟩, read⟩ :=
      readMany_enclosed (.inl rfl) layout level '[' rest _ Prod.snd none pieces
    have head : shown.head? ≠ some ']' := by
      obtain ⟨c, more, starts, _, noBracket, _⟩ := opens item listed
      rw [begins, Function.comp_apply, starts]
      simpa using noBracket
    rw [spelled, readValue_list skipped head, read]
    rfl

theorem Reads.entry {read : List Char → Except Stop (Value × List Char)} {layout : Layout} {level : Nat}
    {entry : Key × Value} {found : Value} (reads : Reads read (chars layout level entry.2) found)
    (opens : Opens (chars layout level entry.2)) :
    Reads (readEntry read) (entryText layout level entry) (.text (keyName entry.1), found) := by
  intro rest ends
  have blank : ∀ c ∈ [' '], isSpace c = true := List.all_eq_true.mp (by decide)
  have skipped : skipSpace (' ' :: (chars layout level entry.2 ++ rest)) = chars layout level entry.2 ++ rest :=
    skipSpace_blank blank opens rest
  rw [entryText, string, List.cons_append, List.cons_append, List.append_assoc, List.append_assoc, readEntry,
    List.singleton_append, readString_string]
  change (read (skipSpace (' ' :: (chars layout level entry.2 ++ rest))) >>= _) = _
  rw [skipped, reads rest ends]
  rfl

/-- A dictionary is read from the texts of its values. -/
theorem ReadsAs.dict (entries : List ((Key × Value) × Value))
    (each : ∀ entry ∈ entries, ReadsAs entry.1.2 entry.2) :
    ReadsAs (.dict (entries.map Prod.fst))
      (.dict (named (Table.merged (entries.map fun entry => (keyName entry.1.1, entry.2))))) := by
  intro layout level depth enough rest _
  obtain ⟨fuel, rfl⟩ := Nat.exists_eq_succ_of_ne_zero (Nat.ne_zero_of_lt enough)
  rw [chars_dict, entryChars_eq_map, List.map_map] at enough ⊢
  by_cases none : entries = []
  · subst none
    rfl
  · have pieces : ∀ entry ∈ entries, Reads (readEntry (readValue fuel))
        ((entryText layout (level + 1) ∘ Prod.fst) entry) (Key.text (keyName entry.1.1), entry.2) ∧
          Opens ((entryText layout (level + 1) ∘ Prod.fst) entry) := fun entry listed => by
      obtain ⟨c, more, begins, shown, _⟩ := (each entry listed).opens layout (level + 1)
      have member := List.mem_map_of_mem (f := entryText layout (level + 1) ∘ Prod.fst) listed
      have inner := length_lt_enclosed layout level '\x7b' '\x7d' member
      refine ⟨(each entry listed layout (level + 1) fuel ?_).entry ⟨c, more, begins, shown⟩, '"', _, rfl, rfl⟩
      have value_inside : (chars layout (level + 1) entry.1.2).length ≤
          (entryText layout (level + 1) entry.1).length := by
        simp only [entryText, List.length_append, List.length_cons]
        omega
      exact Nat.lt_of_le_of_lt value_inside (Nat.lt_of_succ_lt_succ (Nat.lt_trans inner enough))
    obtain ⟨inside, shown, spelled, skipped, ⟨entry, listed, begins⟩, read⟩ :=
      readMany_enclosed (.inr rfl) layout level '\x7b' rest _ _ none pieces
    have head : shown.head? ≠ some '\x7d' := by
      rw [begins, show ((entryText layout (level + 1) ∘ Prod.fst) entry).head? = some '"' from rfl]
      decide
    rw [spelled, readValue_dict skipped head, read, ← ofEntries_named]
    simp only [named, List.map_map]
    rfl

/-! ## Documents -/

/-- The document of a value gives what the value is read as. -/
theorem parse_render {value found : Value} (reads : ReadsAs value found) (layout : Layout) :
    parse (render layout value) = .ok found := by
  obtain ⟨first, more, begins, visible, _, noMark⟩ := reads.opens layout 0
  have whole := reads layout 0 _ (Nat.lt_succ_self _) [] .nil
  rw [List.append_nil] at whole
  have read : readWhole (chars layout 0 value) = .ok found := by
    have skipped : skipSpace (chars layout 0 value) = chars layout 0 value := by
      rw [begins]
      exact List.dropWhile_cons_of_neg (by simp [visible])
    unfold readWhole
    split
    · next rest marked => exact absurd (List.cons.inj (begins.symm.trans marked)).1 noMark
    · rw [skipped, whole]
      rfl
  rw [parse, render, String.toList_ofList, read]
  rfl

/-! ## Integers -/

inductive ShortIntegers : Value → Prop
  | none : ShortIntegers .none
  | bool (value : Bool) : ShortIntegers (.bool value)
  | int {value : Int} : IsShort value → ShortIntegers (.int value)
  | float (value : Float) : ShortIntegers (.float value)
  | text (value : String) : ShortIntegers (.text value)
  | list {items : List Value} : (∀ item ∈ items, ShortIntegers item) → ShortIntegers (.list items)
  | dict {entries : List (Key × Value)} : (∀ entry ∈ entries, ShortIntegers entry.2) → ShortIntegers (.dict entries)

theorem insert_all {P : Value → Prop} (key : Key) {value : Value} (new : P value) {entries : List (Key × Value)}
    (each : ∀ entry ∈ entries, P entry.2) : ∀ entry ∈ Value.insert key value entries, P entry.2 := by
  induction entries with
  | nil => simpa [Value.insert] using new
  | cons first rest ih =>
    have later := fun entry member => each entry (List.mem_cons_of_mem first member)
    unfold Value.insert
    split
    · exact List.forall_mem_cons.mpr ⟨new, later⟩
    · exact List.forall_mem_cons.mpr ⟨each first List.mem_cons_self, ih later⟩

theorem shortIntegers_ofEntries {entries : List (Key × Value)} (each : ∀ entry ∈ entries, ShortIntegers entry.2) :
    ShortIntegers (.ofEntries entries) := by
  -- whatever has been stored before these entries
  have stored (found : List (Key × Value)) (before : ∀ entry ∈ found, ShortIntegers entry.2) :
      ∀ entry ∈ entries.foldl (fun found entry => Value.insert entry.1 entry.2 found) found,
        ShortIntegers entry.2 := by
    induction entries generalizing found with
    | nil => exact before
    | cons first rest ih =>
      exact ih (fun entry member => each entry (List.mem_cons_of_mem first member)) _
        (insert_all first.1 (each first List.mem_cons_self) before)
  exact .dict (stored [] (by simp))

theorem readAtom_short {start rest : List Char} {value : Value} (read : readAtom start = .ok (value, rest)) :
    ShortIntegers value := by
  unfold readAtom at read
  split at read
  · next word found spelled =>
    obtain ⟨rfl, rfl⟩ := Prod.mk.inj (Except.ok.inj read)
    have listed := List.mem_of_find?_eq_some spelled
    simp only [words, List.mem_cons, Prod.mk.injEq, List.not_mem_nil, or_false] at listed
    rcases listed with ⟨_, rfl⟩ | ⟨_, rfl⟩ | ⟨_, rfl⟩ | ⟨_, rfl⟩ | ⟨_, rfl⟩ | ⟨_, rfl⟩
    · exact .none
    · exact .bool true
    · exact .bool false
    · exact .float _
    · exact .float _
    · exact .float _
  · rcases readNumber_short read with ⟨_, rfl⟩ | ⟨_, rfl, short⟩
    · exact .float _
    · exact .int short

theorem ok_of_bind {α β : Type} {first : Except Stop α} {next : α → Except Stop β} {result : β}
    (done : (first >>= next) = .ok result) : ∃ found, first = .ok found ∧ next found = .ok result := by
  cases first with
  | error stop => cases done
  | ok found => exact ⟨found, rfl, done⟩

theorem readMany_all {α : Type} {closing : Char} {read : List Char → Except Stop (α × List Char)} {P : α → Prop}
    (each : ∀ start item rest, read start = .ok (item, rest) → P item) {bound : Nat} {start rest : List Char}
    {items : List α} (done : readMany closing read bound start = .ok (items, rest)) : ∀ item ∈ items, P item := by
  induction bound generalizing start items rest with
  | zero => cases done
  | succ bound ih =>
    rw [readMany] at done
    obtain ⟨⟨item, left⟩, first, done⟩ := ok_of_bind done
    have good := each start item left first
    simp only at done
    split at done
    · cases done
    · split at done
      · cases done
        simpa using good
      · split at done
        · obtain ⟨⟨others, left⟩, later, done⟩ := ok_of_bind done
          cases done
          exact List.forall_mem_cons.mpr ⟨good, ih later⟩
        · cases done

theorem readEntry_short {read : List Char → Except Stop (Value × List Char)}
    (each : ∀ start value rest, read start = .ok (value, rest) → ShortIntegers value) (start : List Char)
    (entry : Key × Value) (rest : List Char) (done : readEntry read start = .ok (entry, rest)) :
    ShortIntegers entry.2 := by
  unfold readEntry at done
  split at done
  · obtain ⟨⟨name, left⟩, _, done⟩ := ok_of_bind done
    simp only at done
    split at done
    · obtain ⟨⟨value, left⟩, found, done⟩ := ok_of_bind done
      cases done
      exact each _ value left found
    · cases done
  · cases done

/-- No integer that is read has more digits than are allowed. -/
theorem readValue_short {depth : Nat} (start : List Char) (value : Value) (rest : List Char)
    (read : readValue depth start = .ok (value, rest)) : ShortIntegers value := by
  induction depth generalizing start value rest with
  | zero => cases read
  | succ depth ih =>
    unfold readValue at read
    split at read
    · obtain ⟨text, _, done⟩ := ok_of_bind read
      cases done
      exact .text _
    · split at read
      · cases read
        exact .list (by simp)
      · obtain ⟨items, found, done⟩ := ok_of_bind read
        cases done
        exact .list (readMany_all ih found)
    · split at read
      · cases read
        exact .dict (by simp)
      · obtain ⟨entries, found, done⟩ := ok_of_bind read
        cases done
        exact shortIntegers_ofEntries (readMany_all (readEntry_short ih) found)
    · exact readAtom_short read

theorem parse_short {text : String} {value : Value} (parsed : parse text = .ok value) : ShortIntegers value := by
  have whole : readWhole text.toList = .ok value := by
    unfold parse at parsed
    cases read : readWhole text.toList with
    | error stop =>
      rw [read] at parsed
      cases parsed
    | ok found =>
      rw [read] at parsed
      cases parsed
      rfl
  unfold readWhole at whole
  split at whole
  · cases whole
  · obtain ⟨⟨found, left⟩, read, done⟩ := ok_of_bind whole
    simp only at done
    split at done
    · cases done
      exact readValue_short _ _ _ read
    · cases done

/-! ## Line ends -/

theorem noReturn_hexDigits (n : Nat) : '\r' ∉ Nat.toDigits 16 n := by
  induction n using Nat.strongRecOn with
  | ind n ih =>
    by_cases small : n < 16
    · rw [Nat.toDigits_of_lt_base small]
      simp
    · rw [Nat.toDigits_of_base_le (by decide) (by omega)]
      simpa using ih (n / 16) (by omega)

theorem noReturn_unitEscape (unit : Nat) : '\r' ∉ unitEscape unit := by
  simp [unitEscape, Text.hexPadded, noReturn_hexDigits]

theorem noReturn_escaped (c : Char) : '\r' ∉ escaped c := by
  unfold escaped
  iterate 7
    split
    · decide
  split
  · next printable =>
    intro member
    rw [← List.mem_singleton.mp member] at printable
    exact absurd printable (by decide)
  · unfold codeEscape
    split
    · exact noReturn_unitEscape _
    · simp [noReturn_unitEscape]

theorem noReturn_string (text : String) : '\r' ∉ string text := by
  simp [string, noReturn_escaped]

theorem noReturn_digits {digits : List Char} (all : ∀ c ∈ digits, c.isDigit = true) : '\r' ∉ digits :=
  fun member => absurd (all _ member) (by decide)

theorem RealText.noReturn {text : List Char} (real : RealText text) : '\r' ∉ text := by
  obtain ⟨whole, tail, isWhole, kind, rfl⟩ := real
  have mark (below : Bool) : '\r' ≠ if below then '-' else '+' := by cases below <;> decide
  rw [List.mem_append, not_or]
  refine ⟨noReturn_digits isWhole.digits.all, ?_⟩
  cases kind with
  | fraction digits run => simp [noReturn_digits run.all]
  | exponent digits below run => simp [noReturn_digits run.all, mark below]
  | both fraction digits below first run =>
    simp [noReturn_digits first.all, noReturn_digits run.all, mark below]

theorem noReturn_number (value : Number) : '\r' ∉ number value := by
  have sign (negative : Bool) : '\r' ∉ signChars negative := by cases negative <;> decide
  cases value with
  | int value =>
    rw [number_int, List.mem_append, not_or]
    exact ⟨sign _, noReturn_digits (Digits.toDigits _).all⟩
  | float value =>
    unfold number Double.textWith
    simp only
    split
    · decide
    · next negative _ => cases negative <;> decide
    · next negative magnitude _ =>
      rw [String.toList_append, List.mem_append, not_or]
      refine ⟨?_, (magnitudeText_real magnitude).noReturn⟩
      cases negative <;> decide

theorem noReturn_break (layout : Layout) (level : Nat) : '\r' ∉ layout.break level := by
  cases layout <;> simp [Layout.break]

theorem noReturn_enclosed (layout : Layout) (level : Nat) {opening closing : Char} {texts : List (List Char)}
    (opens : '\r' ≠ opening) (closes : '\r' ≠ closing) (each : ∀ text ∈ texts, '\r' ∉ text) :
    '\r' ∉ enclosed layout level opening closing texts := by
  have separator : '\r' ∉ layout.separator (level + 1) := by
    cases layout <;> simp [Layout.separator, noReturn_break]
  have joined : '\r' ∉ List.intercalate (layout.separator (level + 1)) texts := by
    induction texts with
    | nil => exact List.not_mem_nil
    | cons first others ih =>
      have later := ih fun text member => each text (List.mem_cons_of_mem first member)
      cases others with
      | nil =>
        rw [List.intercalate_singleton]
        exact each first List.mem_cons_self
      | cons second others =>
        rw [List.intercalate_cons_cons]
        simp [each first, separator, later]
  unfold enclosed
  split
  · simp [opens, closes]
  · simp [opens, closes, noReturn_break, joined]

mutual

/-- A document has no carriage returns, so that a file gives it back as it is. -/
theorem noReturn_chars (layout : Layout) (level : Nat) : (value : Value) → '\r' ∉ chars layout level value
  | .none => by simp [chars]
  | .bool value => by cases value <;> simp [chars]
  | .int value => noReturn_number (.int value)
  | .float value => noReturn_number (.float value)
  | .text value => noReturn_string value
  | .list items => noReturn_enclosed layout level (by decide) (by decide) (noReturn_items layout (level + 1) items)
  | .dict entries =>
      noReturn_enclosed layout level (by decide) (by decide) (noReturn_entries layout (level + 1) entries)

theorem noReturn_items (layout : Layout) (level : Nat) : (items : List Value) →
    ∀ text ∈ itemChars layout level items, '\r' ∉ text
  | [] => by simp [itemChars]
  | item :: rest => by
    simpa [itemChars] using ⟨noReturn_chars layout level item, noReturn_items layout level rest⟩

theorem noReturn_entries (layout : Layout) (level : Nat) : (entries : List (Key × Value)) →
    ∀ text ∈ entryChars layout level entries, '\r' ∉ text
  | [] => by simp [entryChars]
  | (key, value) :: rest => by
    simpa [entryChars, noReturn_string] using
      ⟨noReturn_chars layout level value, noReturn_entries layout level rest⟩

end

/-! ## What is kept -/

def StorableKey : Key → Prop
  | .int value => IsShort value
  | .float _ => False
  | _ => True

/-- What comes back from a document as it is, but for the keys. -/
inductive Storable : Value → Prop
  | none : Storable .none
  | bool (value : Bool) : Storable (.bool value)
  | int {value : Int} : IsShort value → Storable (.int value)
  | text (value : String) : Storable (.text value)
  | list {items : List Value} : (∀ item ∈ items, Storable item) → Storable (.list items)
  | dict {entries : List (Key × Value)} : (∀ entry ∈ entries, StorableKey entry.1) →
      (∀ entry ∈ entries, Storable entry.2) → Storable (.dict entries)

theorem Storable.readsAs {value : Value} (stored : Storable value) : ReadsAs value (normal value) := by
  induction stored with
  | none => exact readsAs_none
  | bool value => exact readsAs_bool value
  | int short => exact readsAs_int short
  | text value => exact readsAs_text value
  | @list items _ ih =>
    have whole := ReadsAs.list (items.map fun item => (item, normal item)) fun pair member => by
      obtain ⟨item, listed, rfl⟩ := List.mem_map.mp member
      exact ih item listed
    rw [normal, normalItems_eq_map]
    simpa [Function.comp_def] using whole
  | @dict entries _ _ ih =>
    have whole := ReadsAs.dict (entries.map fun entry => (entry, normal entry.2)) fun pair member => by
      obtain ⟨entry, listed, rfl⟩ := List.mem_map.mp member
      exact ih entry listed
    rw [normal, normalEntries_eq_map]
    simpa [Function.comp_def] using whole

end Refactory.Json
