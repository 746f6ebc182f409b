import Refactory.Json.Printer
import Refactory.Json.Reader

/-! Numbers that are written as JSON are read back as numbers.

An integer comes back as it was, if it has no more digits than are read. A double comes back as some
double: its text has a fraction or an exponent, so it is not taken for an integer.
-/

set_option autoImplicit false

namespace Refactory.Json

/-! ## Runs of digits -/

def NoDigit (rest : List Char) : Prop := ∀ c ∈ rest.head?, c.isDigit = false

/-- The text goes on with nothing that a number could go on with. -/
structure EndsNumber (rest : List Char) : Prop where
  noDigit : NoDigit rest
  noPoint : rest.head? ≠ some '.'
  noMark : ∀ mark ∈ rest.head?, mark ≠ 'e' ∧ mark ≠ 'E'

structure Digits (digits : List Char) : Prop where
  all : ∀ c ∈ digits, c.isDigit = true
  some_digit : digits ≠ []

theorem Digits.zero : Digits ['0'] := ⟨List.all_eq_true.mp (by decide), by decide⟩

section Runs

variable {digits rest : List Char}

theorem NoDigit.takeWhile (noDigit : NoDigit rest) : rest.takeWhile Char.isDigit = [] := by
  cases rest with
  | nil => rfl
  | cons c rest => rw [List.takeWhile_cons_of_neg (by simp [noDigit c rfl])]

theorem NoDigit.dropWhile (noDigit : NoDigit rest) : rest.dropWhile Char.isDigit = rest := by
  cases rest with
  | nil => rfl
  | cons c rest => rw [List.dropWhile_cons_of_neg (by simp [noDigit c rfl])]

theorem takeWhile_digits (all : ∀ c ∈ digits, c.isDigit = true) (noDigit : NoDigit rest) :
    (digits ++ rest).takeWhile Char.isDigit = digits := by
  rw [List.takeWhile_append_of_pos all, noDigit.takeWhile, List.append_nil]

theorem dropWhile_digits (all : ∀ c ∈ digits, c.isDigit = true) (noDigit : NoDigit rest) :
    (digits ++ rest).dropWhile Char.isDigit = rest := by
  rw [List.dropWhile_append_of_pos all, noDigit.dropWhile]

theorem Digits.toDigits (n : Nat) : Digits (Nat.toDigits 10 n) :=
  ⟨fun _ member => Nat.isDigit_of_mem_toDigits (by decide) (by decide) member, Nat.toDigits_ne_nil⟩

theorem Digits.isEmpty (run : Digits digits) : digits.isEmpty = false := by
  simpa using run.some_digit

end Runs

inductive IsWhole : List Char → Prop
  | zero : IsWhole ['0']
  | positive {first : Char} {others : List Char} : first ≠ '0' → Digits (first :: others) →
      IsWhole (first :: others)

theorem IsWhole.digits {whole : List Char} (isWhole : IsWhole whole) : Digits whole := by
  cases isWhole with
  | zero => exact Digits.zero
  | positive _ run => exact run

theorem wholeDigits_append {whole rest : List Char} (isWhole : IsWhole whole) (noDigit : NoDigit rest) :
    wholeDigits (whole ++ rest) = whole := by
  cases isWhole with
  | zero => rfl
  | positive nonzero run =>
    have taken := takeWhile_digits run.all noDigit
    rw [List.cons_append] at taken ⊢
    unfold wholeDigits
    split
    · next begins => exact absurd (List.cons.inj begins).1 nonzero
    · exact taken

theorem head?_toDigits_ne {n : Nat} (positive : 0 < n) : (Nat.toDigits 10 n).head? ≠ some '0' := by
  -- along the digits from the last to the first
  induction n using Nat.strongRecOn with
  | ind n ih =>
    by_cases single : n < 10
    · rw [Nat.toDigits_of_lt_base single]
      simp
      omega
    · rw [Nat.toDigits_of_base_le (by decide) (by omega), List.head?_append, Option.or_of_isSome (by simp)]
      exact ih (n / 10) (by omega) (by omega)

theorem IsWhole.toDigits (n : Nat) : IsWhole (Nat.toDigits 10 n) := by
  rcases Nat.eq_zero_or_pos n with rfl | positive
  · exact .zero
  · have run := Digits.toDigits n
    have begins := head?_toDigits_ne positive
    generalize Nat.toDigits 10 n = digits at run begins
    cases digits with
    | nil => exact absurd rfl run.some_digit
    | cons first others => exact .positive (fun same => begins (congrArg some same)) run

/-! ## Reading -/

def signChars (negative : Bool) : List Char := if negative then ['-'] else []

theorem takeMinus_sign (negative : Bool) {digits : List Char} (run : Digits digits) (rest : List Char) :
    takeMinus (signChars negative ++ (digits ++ rest)) = (negative, digits ++ rest) := by
  cases negative with
  | true => rfl
  | false =>
    obtain ⟨first, others, rfl⟩ := List.exists_cons_of_ne_nil run.some_digit
    have digit := run.all first List.mem_cons_self
    change takeMinus (first :: (others ++ rest)) = _
    unfold takeMinus
    split
    · next begins =>
      rw [(List.cons.inj begins).1] at digit
      exact absurd digit (by decide)
    · rfl

/-- A number is read from its sign and its digits before the point on. -/
theorem readNumber_whole (negative : Bool) {whole rest : List Char} (isWhole : IsWhole whole)
    (noDigit : NoDigit rest) {fraction after : List Char} {exponent : Option Int} {last : List Char}
    (cut : Double.takeFraction rest = (fraction, after))
    (scaled : Double.takeExponent after = (exponent, last)) :
    readNumber (signChars negative ++ (whole ++ rest)) =
      if fraction.isEmpty && exponent.isNone then
        if digitLimit < whole.length then .error (.integerTooLong whole.length)
        else .ok (.int (if negative then -(Double.natOfDigits whole : Int) else Double.natOfDigits whole), last)
      else .ok (.float (Double.Numeral.toFloat ⟨negative, whole, fraction, exponent.getD 0⟩), last) := by
  unfold readNumber
  simp only [takeMinus_sign negative isWhole.digits, wholeDigits_append isWhole noDigit,
    isWhole.digits.isEmpty, List.drop_left, cut, scaled, Bool.false_eq_true, if_false]

theorem takeFraction_none {rest : List Char} (noPoint : rest.head? ≠ some '.') :
    Double.takeFraction rest = ([], rest) := by
  unfold Double.takeFraction
  split
  · exact absurd rfl noPoint
  · rfl

theorem takeFraction_point {digits rest : List Char} (run : Digits digits) (noDigit : NoDigit rest) :
    Double.takeFraction ('.' :: (digits ++ rest)) = (digits, rest) := by
  simp only [Double.takeFraction, takeWhile_digits run.all noDigit, dropWhile_digits run.all noDigit,
    run.isEmpty, Bool.false_eq_true, if_false]

theorem takeExponent_none {rest : List Char} (noMark : ∀ mark ∈ rest.head?, mark ≠ 'e' ∧ mark ≠ 'E') :
    Double.takeExponent rest = (none, rest) := by
  unfold Double.takeExponent
  split
  · next mark rest => simp [noMark mark rfl]
  · rfl

theorem takeExponent_mark (negative : Bool) {digits : List Char} (run : Digits digits) :
    ∃ exponent, ∀ rest, NoDigit rest →
      Double.takeExponent ('e' :: (if negative then '-' else '+') :: (digits ++ rest)) = (some exponent, rest) := by
  refine ⟨if negative then -Double.natOfDigits digits else Double.natOfDigits digits, fun rest noDigit => ?_⟩
  have signed : Double.takeSign ((if negative then '-' else '+') :: (digits ++ rest)) =
      (negative, digits ++ rest) := by
    cases negative <;> rfl
  simp only [Double.takeExponent, signed, takeWhile_digits run.all noDigit, dropWhile_digits run.all noDigit,
    run.isEmpty, decide_true, Bool.true_or, Bool.false_eq_true, if_true, if_false]

theorem find?_words_digit (negative : Bool) {first : Char} (digit : first.isDigit = true) (rest : List Char) :
    words.find? (fun word => word.1.toList.isPrefixOf (signChars negative ++ first :: rest)) = none := by
  have apart {letter : Char} (other : letter.isDigit = false) : letter ≠ first := by
    rintro rfl
    rw [digit] at other
    cases other
  have letters : 'n' ≠ first ∧ 't' ≠ first ∧ 'f' ≠ first ∧ 'N' ≠ first ∧ 'I' ≠ first ∧ '-' ≠ first :=
    ⟨apart rfl, apart rfl, apart rfl, apart rfl, apart rfl, apart rfl⟩
  cases negative <;> simp [words, signChars, letters]

theorem readAtom_whole (negative : Bool) {whole : List Char} (isWhole : IsWhole whole) (rest : List Char) :
    readAtom (signChars negative ++ (whole ++ rest)) = readNumber (signChars negative ++ (whole ++ rest)) := by
  obtain ⟨first, others, rfl⟩ := List.exists_cons_of_ne_nil isWhole.digits.some_digit
  unfold readAtom
  rw [List.cons_append, find?_words_digit negative (isWhole.digits.all first List.mem_cons_self)]

/-! ## Integers -/

theorem number_int (value : Int) :
    number (.int value) = signChars (value < 0) ++ Nat.toDigits 10 value.natAbs := by
  cases value with
  | ofNat size => simp [number, signChars, Int.repr]
  | negSucc size => simp [number, signChars, Int.repr]

theorem natOfDigits_toDigits (n : Nat) : Double.natOfDigits (Nat.toDigits 10 n) = n := by
  have read := Nat.ofDigitChars_ten_toDigits (n := n)
  rwa [Nat.ofDigitChars_eq_foldl] at read

def IsShort (value : Int) : Prop := (Nat.toDigits 10 value.natAbs).length ≤ digitLimit

theorem readAtom_int {value : Int} (short : IsShort value) {rest : List Char} (ends : EndsNumber rest) :
    readAtom (number (.int value) ++ rest) = .ok (.int value, rest) := by
  have isWhole := IsWhole.toDigits value.natAbs
  have same : (if decide (value < 0) then -(value.natAbs : Int) else value.natAbs) = value := by
    by_cases negative : value < 0
    · rw [decide_eq_true negative, if_pos rfl]
      omega
    · rw [decide_eq_false negative, if_neg Bool.false_ne_true]
      omega
  rw [number_int, List.append_assoc, readAtom_whole _ isWhole,
    readNumber_whole _ isWhole ends.noDigit (takeFraction_none ends.noPoint) (takeExponent_none ends.noMark)]
  simp only [List.isEmpty_nil, Option.isNone_none, Bool.and_self, if_true]
  rw [if_neg (Nat.not_lt.mpr short), natOfDigits_toDigits, same]

theorem natOfDigits_lt {digits : List Char} (all : ∀ c ∈ digits, c.isDigit = true) :
    Double.natOfDigits digits < Nat.pow 10 digits.length := by
  -- with what stands before the digits, which is multiplied as they are read
  have bound (total : Nat) : digits.foldl (fun total digit => 10 * total + (digit.toNat - '0'.toNat)) total <
      (total + 1) * Nat.pow 10 digits.length := by
    induction digits generalizing total with
    | nil => exact Nat.lt_of_lt_of_eq (Nat.lt_succ_self total) (Nat.mul_one _).symm
    | cons c rest ih =>
      have small : c.toNat - '0'.toNat ≤ 9 := by
        have digit : (decide (c.val ≥ '0'.val) && decide (c.val ≤ '9'.val)) = true := all c List.mem_cons_self
        have upper : c.toNat ≤ '9'.toNat := of_decide_eq_true (Bool.and_eq_true_iff.mp digit).2
        have nine : '9'.toNat = '0'.toNat + 9 := rfl
        omega
      have later := ih (fun d member => all d (List.mem_cons_of_mem c member)) (10 * total + (c.toNat - '0'.toNat))
      have wider : 10 * total + (c.toNat - '0'.toNat) + 1 ≤ (total + 1) * 10 := by omega
      have step : Nat.pow 10 (c :: rest).length = 10 * Nat.pow 10 rest.length := Nat.mul_comm _ 10
      rw [step, ← Nat.mul_assoc]
      exact Nat.lt_of_lt_of_le later (Nat.mul_le_mul_right _ wider)
  have whole := bound 0
  rwa [Nat.zero_add, Nat.one_mul] at whole

theorem wholeDigits_all (chars : List Char) : ∀ c ∈ wholeDigits chars, c.isDigit = true := by
  unfold wholeDigits
  split
  · simp
  · exact fun c member => List.all_eq_true.mp List.all_takeWhile c member

/-- What is read as a number is a double or an integer of no more digits than are allowed. -/
theorem readNumber_short {start rest : List Char} {value : Value} (read : readNumber start = .ok (value, rest)) :
    (∃ double, value = .float double) ∨ ∃ size, value = .int size ∧ IsShort size := by
  unfold readNumber at read
  simp only at read
  split at read
  · cases read
  · next some_digit =>
    split at read
    · split at read
      · cases read
      · next short =>
        obtain ⟨rfl, rfl⟩ := Prod.mk.inj (Except.ok.inj read)
        refine .inr ⟨_, rfl, ?_⟩
        have bound := natOfDigits_lt (wholeDigits_all (takeMinus start).2)
        have length : 0 < (wholeDigits (takeMinus start).2).length := by
          rw [List.length_pos_iff]
          simpa using some_digit
        have few := (Nat.length_toDigits_le_iff (b := 10) (by decide) length).mpr bound
        have size (negative : Bool) (whole : Nat) : (if negative then -(whole : Int) else whole).natAbs = whole := by
          cases negative <;> simp
        rw [IsShort, size]
        omega
    · obtain ⟨rfl, rfl⟩ := Prod.mk.inj (Except.ok.inj read)
      exact .inl ⟨_, rfl⟩

/-! ## Doubles -/

/-- What makes a number a double: a fraction, or an exponent that may follow one. -/
inductive RealTail : List Char → Prop
  | fraction (digits : List Char) : Digits digits → RealTail ('.' :: digits)
  | exponent (digits : List Char) (negative : Bool) : Digits digits →
      RealTail ('e' :: (if negative then '-' else '+') :: digits)
  | both (fraction digits : List Char) (negative : Bool) : Digits fraction → Digits digits →
      RealTail ('.' :: (fraction ++ 'e' :: (if negative then '-' else '+') :: digits))

def RealText (chars : List Char) : Prop :=
  ∃ whole tail, IsWhole whole ∧ RealTail tail ∧ chars = whole ++ tail

theorem readAtom_real (negative : Bool) {chars : List Char} (real : RealText chars) :
    ∃ value, ∀ rest, EndsNumber rest →
      readAtom (signChars negative ++ chars ++ rest) = .ok (.float value, rest) := by
  obtain ⟨whole, tail, isWhole, kind, rfl⟩ := real
  have apart {mark : Char} {more : List Char} (other : mark.isDigit = false) : NoDigit (mark :: more) := by
    intro c first
    rwa [← Option.some.inj first]
  cases kind with
  | fraction digits run =>
    refine ⟨Double.Numeral.toFloat ⟨negative, whole, digits, 0⟩, fun rest ends => ?_⟩
    rw [List.append_assoc, List.append_assoc, readAtom_whole negative isWhole, List.cons_append,
      readNumber_whole negative isWhole (apart rfl) (takeFraction_point run ends.noDigit)
        (takeExponent_none ends.noMark), run.isEmpty]
    rfl
  | exponent digits below run =>
    obtain ⟨size, scaled⟩ := takeExponent_mark below run
    refine ⟨Double.Numeral.toFloat ⟨negative, whole, [], size⟩, fun rest ends => ?_⟩
    rw [List.append_assoc, List.append_assoc, readAtom_whole negative isWhole, List.cons_append, List.cons_append,
      readNumber_whole negative isWhole (apart rfl) (takeFraction_none (by simp)) (scaled rest ends.noDigit)]
    rfl
  | both fraction digits below first run =>
    obtain ⟨size, scaled⟩ := takeExponent_mark below run
    refine ⟨Double.Numeral.toFloat ⟨negative, whole, fraction, size⟩, fun rest ends => ?_⟩
    rw [List.append_assoc, List.append_assoc, readAtom_whole negative isWhole, List.cons_append, List.append_assoc,
      List.cons_append, List.cons_append, readNumber_whole negative isWhole (apart rfl)
        (takeFraction_point first (apart rfl)) (scaled rest ends.noDigit), first.isEmpty]
    rfl

/-! ### The digits of a double -/

/-- The shortest decimal of a magnitude has a digit that is not zero, unless none was found. -/
theorem firstGrid?_positive {range : Double.Interval} (above : 0 < range.low) {unit place rounds count : Nat}
    {found : Double.Decimal} (hit : range.firstGrid? unit place rounds count = some found) :
    0 < found.digits := by
  -- a grid point in the interval is not zero
  have inside {point : Nat} (holds : range.holds point = true) : 0 < point := by
    unfold Double.Interval.holds at holds
    split at holds <;> simp at holds <;> omega
  induction rounds generalizing count with
  | zero => cases hit
  | succ rounds ih =>
    unfold Double.Interval.firstGrid? at hit
    split at hit
    · next digits lies =>
      cases hit
      unfold Double.Interval.onGrid? at lies
      simp only at lies
      split at lies
      · next both =>
        cases lies
        have lower := Nat.pos_of_mul_pos_right (inside (Bool.and_eq_true_iff.mp both).1)
        unfold Double.roundedQuotient
        simp only
        split
        · exact lower
        · split <;> omega
      · split at lies
        · next lower =>
          cases lies
          exact Nat.pos_of_mul_pos_right (inside lower)
        · split at lies
          · cases lies
            exact Nat.succ_pos _
          · cases lies
    · exact ih hit

theorem shortest_positive {value : Double.Magnitude} (nonzero : value.significand ≠ 0) :
    0 < value.shortest.digits ∨ value.shortest = ⟨0, 0⟩ := by
  unfold Double.Magnitude.shortest
  simp only
  generalize hit : Double.Interval.firstGrid? _ _ _ _ _ = outcome
  cases outcome with
  | none => exact .inr rfl
  | some found =>
    refine .inl (firstGrid?_positive ?_ hit)
    simp only [Double.Interval.scaleBy, Double.Magnitude.interval]
    have power (base exponent : Nat) (some_base : 0 < base) : 0 < Nat.pow base exponent := Nat.pow_pos some_base
    apply Nat.mul_pos
    · split <;> omega
    · exact Nat.mul_pos (power _ _ (by decide)) (power _ _ (by decide))

theorem isWhole_withoutFinalZeros {n : Nat} (positive : 0 < n) : ∃ first others,
    Double.withoutFinalZeros (Nat.toDigits 10 n) = first :: others ∧ first ≠ '0' ∧
      Digits (first :: others) := by
  have run := Digits.toDigits n
  have begins := head?_toDigits_ne positive
  generalize Nat.toDigits 10 n = digits at run begins
  have start : Double.withoutFinalZeros digits <+: digits := by
    rw [← List.reverse_suffix, Double.withoutFinalZeros, List.reverse_reverse]
    exact List.dropWhile_suffix _
  cases kept : Double.withoutFinalZeros digits with
  | nil =>
    -- only zeros are taken away, and the first digit is none
    have zeros (c : Char) (member : c ∈ digits) : c = '0' := by
      rw [Double.withoutFinalZeros, List.reverse_eq_nil_iff] at kept
      have all := List.all_takeWhile (p := (· = '0')) (l := digits.reverse)
      have whole := List.takeWhile_append_dropWhile (p := (· = '0')) (l := digits.reverse)
      rw [kept, List.append_nil] at whole
      rw [whole, List.all_eq_true] at all
      simpa using all c (List.mem_reverse.mpr member)
    obtain ⟨first, others, rfl⟩ := List.exists_cons_of_ne_nil run.some_digit
    exact absurd (congrArg some (zeros first List.mem_cons_self)) begins
  | cons first others =>
    rw [kept] at start
    refine ⟨first, others, rfl, ?_, fun c member => run.all c (start.subset member), by simp⟩
    rintro rfl
    obtain ⟨rest, whole⟩ := start
    exact begins (by rw [← whole]; rfl)

theorem Digits.zeros (count : Nat) : ∀ c ∈ (Double.zeros count).toList, c.isDigit = true := by
  intro c member
  rw [Double.zeros, String.toList_ofList] at member
  rw [List.eq_of_mem_replicate member]
  rfl

theorem Digits.append {first second : List Char} (left : Digits first) (right : ∀ c ∈ second, c.isDigit = true) :
    Digits (first ++ second) := by
  refine ⟨fun c member => ?_, by simp [left.some_digit]⟩
  rcases List.mem_append.mp member with early | late
  · exact left.all c early
  · exact right c late

theorem exponentText_chars (exponent : Int) : ∃ digits, Digits digits ∧
    (Double.exponentText exponent).toList = (if decide (exponent < 0) then '-' else '+') :: digits := by
  have run := Digits.toDigits exponent.natAbs
  have size : (toString exponent.natAbs).toList = Nat.toDigits 10 exponent.natAbs := by simp
  unfold Double.exponentText
  refine ⟨(if (toString exponent.natAbs).length < 2 then "0" ++ toString exponent.natAbs
    else toString exponent.natAbs).toList, ?_, ?_⟩
  · split
    · rw [String.toList_append, size]
      exact Digits.append Digits.zero run.all
    · rwa [size]
  · rw [String.toList_append]
    by_cases negative : exponent < 0 <;> simp [negative]

/-- Digits of which the first is not zero are written as a double, wherever the point stands. -/
theorem digitsText_real {first : Char} {others : List Char} (nonzero : first ≠ '0')
    (run : Digits (first :: others)) (point : Int) :
    RealText (Double.digitsText (first :: others) point).toList := by
  have single : IsWhole [first] := .positive nonzero ⟨fun c member => run.all c (by simp_all), by simp⟩
  have later (c : Char) (member : c ∈ others) : c.isDigit = true := run.all c (List.mem_cons_of_mem _ member)
  unfold Double.digitsText
  split
  · -- one digit, and an exponent
    obtain ⟨digits, scale, spelled⟩ := exponentText_chars (point - 1)
    cases others with
    | nil => exact ⟨[first], _, single, .exponent digits (point - 1 < 0) scale, by simp [spelled]⟩
    | cons second others =>
      exact ⟨[first], _, single, .both (second :: others) digits (point - 1 < 0) ⟨later, by simp⟩ scale,
        by simp [spelled]⟩
  · split
    · -- all digits behind the point
      refine ⟨['0'], _, .zero, .fraction ((Double.zeros point.natAbs).toList ++ first :: others) ?_, by simp⟩
      refine ⟨fun c member => ?_, by simp⟩
      rcases List.mem_append.mp member with zero | digit
      · exact Digits.zeros _ c zero
      · exact run.all c digit
    · next small positive =>
      obtain ⟨before, whole⟩ : ∃ before, point.natAbs = before + 1 := ⟨point.natAbs - 1, by omega⟩
      simp only [whole]
      split
      · -- no digit behind the point but a zero
        exact ⟨first :: (others ++ (Double.zeros (before + 1 - (first :: others).length)).toList), _,
          .positive nonzero (run.append (Digits.zeros _)), .fraction ['0'] Digits.zero, by simp⟩
      · next long =>
        rw [List.length_cons] at long
        refine ⟨first :: others.take before, _, .positive nonzero ⟨fun c member => ?_, by simp⟩,
          .fraction (others.drop before) ⟨fun c member => ?_, ?_⟩, by simp⟩
        · rcases List.mem_cons.mp member with rfl | taken
          · exact run.all c List.mem_cons_self
          · exact later c (List.mem_of_mem_take taken)
        · exact later c (List.mem_of_mem_drop member)
        · rw [ne_eq, List.drop_eq_nil_iff]
          omega

theorem magnitudeText_real (value : Double.Magnitude) : RealText value.text.toList := by
  have zero : RealText "0.0".toList := ⟨['0'], _, .zero, .fraction ['0'] Digits.zero, rfl⟩
  unfold Double.Magnitude.text
  split
  · exact zero
  · next nonzero =>
    rcases shortest_positive nonzero with positive | default
    · obtain ⟨first, others, kept, begins, run⟩ := isWhole_withoutFinalZeros positive
      unfold Double.Decimal.text
      simp only [kept]
      exact digitsText_real begins run _
    · rw [default]
      exact zero

/-- A double comes back as a double. -/
theorem readAtom_float (value : Float) :
    ∃ found, ∀ rest, EndsNumber rest → readAtom (number (.float value) ++ rest) = .ok (.float found, rest) := by
  unfold number Double.textWith
  simp only
  split
  · exact ⟨0 / 0, fun _ _ => rfl⟩
  · next negative _ => exact ⟨Double.infinity negative, fun _ _ => by cases negative <;> rfl⟩
  · next negative magnitude _ =>
    have sign : (if negative then "-" else "").toList = signChars negative := by cases negative <;> rfl
    rw [String.toList_append, sign]
    exact readAtom_real negative (magnitudeText_real magnitude)

end Refactory.Json
