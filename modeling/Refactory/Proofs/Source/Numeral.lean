import Refactory.Proofs.Source.Ending

/-! Numeric literals before the blanks that end a text.

Each part of a literal is read the same whether one line end follows or other blanks, and the scanners
leave off at the same place.
-/

set_option autoImplicit false

namespace Refactory.Source.Numeral

open Text (isBlank valueOf)

variable {chars clipped rest : List Char}

theorem endsBefore_clipped (ends : Clipped chars clipped) (done : endsBefore chars = true) :
    endsBefore clipped = true := by
  have words : ∀ word ∈ followers, word.any isBlank = false := by decide
  cases ends with
  | tail => decide
  | cons c ends =>
    rw [endsBefore, Bool.or_eq_true, List.any_eq_true] at done ⊢
    refine done.imp_right fun ⟨word, member, begins⟩ => ⟨word, member, ?_⟩
    rwa [← (Clipped.cons c ends).isPrefixOf_eq (Text.isBlank_of_any (words word member))]

theorem digitRun?_cons (isDigit : Char → Bool) (c : Char) (rest : List Char) :
    digitRun? isDigit (c :: rest) =
      if isDigit c then (digitRun? isDigit rest).map fun (digits, rest) => (c :: digits, rest)
      else if c == '_' then if rest.head?.any isDigit then digitRun? isDigit rest else none
      else some ([], c :: rest) := by
  conv => lhs; unfold digitRun?
  cases rest <;> rfl

theorem digitRun?_clipped {isDigit : Char → Bool} (solid : ∀ c, isBlank c = true → isDigit c = false)
    (ends : Clipped chars clipped) {digits : List Char}
    (found : digitRun? isDigit chars = some (digits, rest)) :
    ∃ left, digitRun? isDigit clipped = some (digits, left) ∧ Reaches chars clipped rest left := by
  induction ends generalizing digits rest with
  | tail trailing =>
    obtain ⟨c, more, rfl, blank⟩ := trailing.exists_cons
    have apart : (c == '_') = false := by simpa using Text.ne_of_isBlank blank (by decide)
    rw [digitRun?_cons, solid c blank, apart] at found
    cases found
    refine ⟨['\n'], ?_, .refl (.tail trailing)⟩
    rw [digitRun?_cons, solid '\n' (by decide)]
    rfl
  | cons c ends ih =>
    rw [digitRun?_cons] at found ⊢
    split at found
    · next digit =>
      obtain ⟨⟨more, others⟩, run, same⟩ := Option.map_eq_some_iff.mp found
      cases same
      obtain ⟨left, again, reaches⟩ := ih run
      exact ⟨left, by rw [if_pos digit, again]; rfl, reaches.cons c c⟩
    · next other =>
      rw [if_neg other]
      split at found
      · next joint =>
        rw [if_pos joint, ← ends.head?_any_eq solid]
        split at found
        · next digit =>
          rw [if_pos digit]
          obtain ⟨left, again, reaches⟩ := ih found
          exact ⟨left, again, reaches.cons c c⟩
        · cases found
      · next plain =>
        cases found
        rw [if_neg plain]
        exact ⟨_, rfl, .refl (.cons c ends)⟩

def bodyOf (chars : List Char) : List Char :=
  match chars with
  | '_' :: rest => rest
  | _ => chars

theorem bodyOf_of_ne {c : Char} (other : c ≠ '_') (chars : List Char) : bodyOf (c :: chars) = c :: chars := by
  unfold bodyOf
  split
  · next same => exact absurd (List.cons.inj same).1 other
  · rfl

theorem bodyOf_clipped (ends : Clipped chars clipped) :
    Reaches chars clipped (bodyOf chars) (bodyOf clipped) := by
  cases ends with
  | tail trailing =>
    obtain ⟨c, rest, rfl, blank⟩ := trailing.exists_cons
    rw [bodyOf_of_ne (Text.ne_of_isBlank blank (by decide)), bodyOf_of_ne (by decide)]
    exact .refl (.tail trailing)
  | cons c ends =>
    by_cases joint : c = '_'
    · subst joint
      exact (Reaches.refl ends).cons '_' '_'
    · rw [bodyOf_of_ne joint, bodyOf_of_ne joint]
      exact .refl (.cons c ends)

theorem Radix.scan_body (radix : Radix) (chars : List Char) : radix.scan chars = match bodyOf chars with
    | [] => .error (radix.fault [])
    | c :: _ =>
        if !radix.isDigit c then .error (radix.fault (bodyOf chars))
        else match digitRun? radix.isDigit (bodyOf chars) with
          | none => .error (radix.fault (scan.afterUnderscore radix.isDigit (bodyOf chars)))
          | some (digits, rest) => match rest with
              | next :: _ =>
                  if next.isDigit then .error (radix.fault rest)
                  else if endsBefore rest then .ok (.int (valueOf radix.base digits), rest)
                  else .error (.invalidNumber radix.kind)
              | [] => .ok (.int (valueOf radix.base digits), rest) := rfl

theorem Radix.scan_eq (radix : Radix) (chars : List Char) :
    radix.scan chars =
      if (bodyOf chars).head?.any radix.isDigit then match digitRun? radix.isDigit (bodyOf chars) with
        | none => .error (radix.fault (scan.afterUnderscore radix.isDigit (bodyOf chars)))
        | some (digits, rest) =>
            if rest.head?.any Char.isDigit then .error (radix.fault rest)
            else if endsBefore rest then .ok (.int (valueOf radix.base digits), rest)
            else .error (.invalidNumber radix.kind)
      else .error (radix.fault (bodyOf chars)) := by
  rw [scan_body]
  cases bodyOf chars with
  | nil => rfl
  | cons c more =>
    cases digit : radix.isDigit c with
    | false => simp [digit]
    | true =>
      simp only [digit, Bool.not_true, Bool.false_eq_true, if_false, List.head?_cons, Option.any_some, if_true]
      cases digitRun? radix.isDigit (c :: more) with
      | none => rfl
      | some found =>
        obtain ⟨digits, rest⟩ := found
        cases rest <;> rfl

theorem Radix.scan_clipped {radix : Radix} (solid : ∀ c, isBlank c = true → radix.isDigit c = false)
    (ends : Clipped chars clipped) {number : Number} (found : radix.scan chars = .ok (number, rest)) :
    ∃ left, radix.scan clipped = .ok (number, left) ∧ Reaches chars clipped rest left := by
  have body := bodyOf_clipped ends
  rw [scan_eq] at found ⊢
  rw [← body.ends.head?_any_eq solid]
  split at found
  · next starts =>
    rw [if_pos starts]
    split at found
    · cases found
    · next digits others run =>
      obtain ⟨left, again, reaches⟩ := digitRun?_clipped solid body.ends run
      simp only [again, ← reaches.ends.head?_any_eq fun _ => Text.isDigit_of_isBlank]
      split at found
      · cases found
      · next apart =>
        split at found
        · next done =>
          cases found
          refine ⟨left, ?_, body.trans reaches⟩
          rw [if_neg apart, if_pos (endsBefore_clipped reaches.ends done)]
        · cases found
  · cases found

def signOf (chars : List Char) : Option Int × List Char :=
  match chars with
  | '+' :: digits => (some 1, digits)
  | '-' :: digits => (some (-1), digits)
  | _ => (none, chars)

theorem signOf_of_ne {c : Char} (plus : c ≠ '+') (minus : c ≠ '-') (chars : List Char) :
    signOf (c :: chars) = (none, c :: chars) := by
  unfold signOf
  split
  · next same => exact absurd (List.cons.inj same).1 plus
  · next same => exact absurd (List.cons.inj same).1 minus
  · rfl

theorem signOf_clipped (ends : Clipped chars clipped) :
    (signOf chars).1 = (signOf clipped).1 ∧ Reaches chars clipped (signOf chars).2 (signOf clipped).2 := by
  cases ends with
  | tail trailing =>
    obtain ⟨c, rest, rfl, blank⟩ := trailing.exists_cons
    have apart {other : Char} (solid : isBlank other = false) : c ≠ other := Text.ne_of_isBlank blank solid
    rw [signOf_of_ne (apart (by decide)) (apart (by decide)), signOf_of_ne (by decide) (by decide)]
    exact ⟨rfl, .refl (.tail trailing)⟩
  | cons c ends =>
    by_cases plus : c = '+'
    · subst plus
      exact ⟨rfl, (Reaches.refl ends).cons _ _⟩
    by_cases minus : c = '-'
    · subst minus
      exact ⟨rfl, (Reaches.refl ends).cons _ _⟩
    · rw [signOf_of_ne plus minus, signOf_of_ne plus minus]
      exact ⟨rfl, .refl (.cons c ends)⟩

theorem exponent_marked (c : Char) (rest : List Char) : exponent (c :: rest) =
    if c == 'e' || c == 'E' then match (signOf rest).2 with
      | d :: _ =>
          if d.isDigit then match digitRun? Char.isDigit (signOf rest).2 with
            | none => .error (.invalidNumber .decimal)
            | some (run, others) => .ok (some ((signOf rest).1.getD 1 * (valueOf 10 run : Nat)), others)
          else if (signOf rest).1.isSome || !endsBefore (c :: rest) then .error (.invalidNumber .decimal)
          else .ok (none, c :: rest)
      | [] => if (signOf rest).1.isSome || !endsBefore (c :: rest) then .error (.invalidNumber .decimal)
          else .ok (none, c :: rest)
    else .ok (none, c :: rest) := rfl

theorem exponent_cons (c : Char) (rest : List Char) : exponent (c :: rest) =
    if c == 'e' || c == 'E' then
      if (signOf rest).2.head?.any Char.isDigit then match digitRun? Char.isDigit (signOf rest).2 with
        | none => .error (.invalidNumber .decimal)
        | some (run, others) => .ok (some ((signOf rest).1.getD 1 * (valueOf 10 run : Nat)), others)
      else if (signOf rest).1.isSome || !endsBefore (c :: rest) then .error (.invalidNumber .decimal)
      else .ok (none, c :: rest)
    else .ok (none, c :: rest) := by
  rw [exponent_marked]
  cases (signOf rest).2 <;> rfl

theorem exponent_clipped (ends : Clipped chars clipped) {power : Option Int}
    (found : exponent chars = .ok (power, rest)) :
    ∃ left, exponent clipped = .ok (power, left) ∧ Reaches chars clipped rest left := by
  cases ends with
  | tail trailing =>
    obtain ⟨c, more, rfl, blank⟩ := trailing.exists_cons
    have apart {other : Char} (solid : isBlank other = false) : (c == other) = false :=
      beq_false_of_ne (Text.ne_of_isBlank blank solid)
    rw [exponent_cons, apart (by decide), apart (by decide)] at found
    cases found
    exact ⟨['\n'], rfl, .refl (.tail trailing)⟩
  | cons c ends =>
    obtain ⟨signed, body⟩ := signOf_clipped ends
    rw [exponent_cons] at found ⊢
    rw [← signed, ← body.ends.head?_any_eq fun _ => Text.isDigit_of_isBlank]
    split at found
    · next marked =>
      rw [if_pos marked]
      split at found
      · next digit =>
        rw [if_pos digit]
        split at found
        · cases found
        · next run others read =>
          cases found
          obtain ⟨left, again, reaches⟩ :=
            digitRun?_clipped (fun _ => Text.isDigit_of_isBlank) body.ends read
          exact ⟨left, by rw [again], (body.trans reaches).cons c c⟩
      · next bare =>
        rw [if_neg bare]
        split at found
        · cases found
        · next word =>
          cases found
          simp only [Bool.or_eq_true, Bool.not_eq_true', not_or, Bool.not_eq_false] at word
          have ended := endsBefore_clipped (.cons c ends) word.2
          refine ⟨_, ?_, .refl (.cons c ends)⟩
          rw [if_neg (by simp [word.1, ended])]
    · next plain =>
      cases found
      rw [if_neg plain]
      exact ⟨_, rfl, .refl (.cons c ends)⟩

theorem finish_clipped {digits : List Char} {value : Double.Decimal} {whole : Bool} {number : Number}
    (ends : Clipped chars clipped) (found : suffix.finish digits value whole chars = .ok (number, rest)) :
    suffix.finish digits value whole clipped = .ok (number, clipped) ∧ rest = chars := by
  unfold suffix.finish at found ⊢
  split at found
  · cases found
  · next done =>
    rw [Bool.not_eq_true', Bool.not_eq_false] at done
    rw [if_neg (by simp [endsBefore_clipped ends done])]
    split at found
    · next real =>
      cases found
      exact ⟨if_pos real, rfl⟩
    · next exact_value =>
      rw [if_neg exact_value]
      split at found
      · cases found
      · next short =>
        cases found
        exact ⟨if_neg short, rfl⟩

theorem suffix_of_exponent {digits : List Char} {places : Nat} {whole : Bool} {power : Option Int}
    (read : exponent chars = .ok (power, rest)) : suffix digits places whole chars =
      if rest.head?.any (fun c => c == 'j' || c == 'J') then
        if endsBefore (rest.drop 1) then
          .ok (.imaginary (Double.Decimal.pattern ⟨valueOf 10 digits, power.getD 0 - (places : Int)⟩),
            rest.drop 1)
        else .error (.invalidNumber .imaginary)
      else suffix.finish digits ⟨valueOf 10 digits, power.getD 0 - (places : Int)⟩ (whole && power.isNone)
        rest := by
  unfold suffix
  rw [read]
  cases rest <;> rfl

theorem suffix_clipped {digits : List Char} {places : Nat} {whole : Bool} {number : Number}
    (ends : Clipped chars clipped) (found : suffix digits places whole chars = .ok (number, rest)) :
    ∃ left, suffix digits places whole clipped = .ok (number, left) ∧ Reaches chars clipped rest left := by
  cases read : exponent chars with
  | error fault =>
    rw [suffix, read] at found
    cases found
  | ok result =>
    obtain ⟨power, others⟩ := result
    obtain ⟨middle, again, near⟩ := exponent_clipped ends read
    have letters (c : Char) (blank : isBlank c = true) : (c == 'j' || c == 'J') = false := by
      rw [beq_false_of_ne (Text.ne_of_isBlank blank (by decide)),
        beq_false_of_ne (Text.ne_of_isBlank blank (by decide))]
      rfl
    rw [suffix_of_exponent read] at found
    rw [suffix_of_exponent again, ← near.ends.head?_any_eq letters]
    split at found
    · next imaginary =>
      -- the letter is not blank, so it stands in both texts
      obtain ⟨c, more, rfl⟩ := List.exists_cons_of_ne_nil (l := others) (by rintro rfl; cases imaginary)
      obtain ⟨left, rfl, clip⟩ := near.ends.of_solid (by
        cases blank : isBlank c with
        | false => rfl
        | true => exact absurd imaginary (by simpa using letters c blank))
      rw [if_pos imaginary]
      split at found
      · next done =>
        cases found
        refine ⟨left, if_pos (endsBefore_clipped clip done), near.trans ((Reaches.refl clip).cons c c)⟩
      · cases found
    · next plain =>
      rw [if_neg plain]
      obtain ⟨same, rfl⟩ := finish_clipped near.ends found
      exact ⟨middle, same, near⟩

theorem fraction_eq (digits chars : List Char) : fraction digits chars =
    if chars.head?.any Char.isDigit then match digitRun? Char.isDigit chars with
      | none => .error (.invalidNumber .decimal)
      | some (places, rest) => suffix (digits ++ places) places.length false rest
    else suffix digits 0 false chars := by
  cases chars <;> rfl

theorem fraction_clipped {digits : List Char} {number : Number} (ends : Clipped chars clipped)
    (found : fraction digits chars = .ok (number, rest)) :
    ∃ left, fraction digits clipped = .ok (number, left) ∧ Reaches chars clipped rest left := by
  rw [fraction_eq] at found ⊢
  rw [← ends.head?_any_eq fun _ => Text.isDigit_of_isBlank]
  split at found
  · next digit =>
    rw [if_pos digit]
    split at found
    · cases found
    · next places others run =>
      obtain ⟨middle, again, near⟩ := digitRun?_clipped (fun _ => Text.isDigit_of_isBlank) ends run
      obtain ⟨left, same, far⟩ := suffix_clipped near.ends found
      exact ⟨left, by rw [again]; exact same, near.trans far⟩
  · next bare =>
    rw [if_neg bare]
    exact suffix_clipped ends found

theorem decimal_of_run {digits : List Char} (run : digitRun? Char.isDigit chars = some (digits, rest)) :
    decimal chars =
      if rest.head? = some '.' then fraction digits (rest.drop 1)
      else if (digits.head? == some '0' && digits.any (· != '0')) &&
          !rest.head?.any (fun c => c == 'e' || c == 'E' || c == 'j' || c == 'J') then .error .leadingZeros
      else suffix digits 0 true rest := by
  unfold decimal
  rw [run]
  cases rest with
  | nil => rfl
  | cons c more =>
    by_cases point : c = '.'
    · subst point
      rfl
    · simp [point]

theorem decimal_clipped {c : Char} (digit : c.isDigit = true) {number : Number}
    (ends : Clipped chars clipped) (found : decimal (c :: chars) = .ok (number, rest)) :
    ∃ left, decimal (c :: clipped) = .ok (number, left) ∧ Reaches chars clipped rest left := by
  cases run : digitRun? Char.isDigit (c :: chars) with
  | none =>
    rw [decimal, run] at found
    cases found
  | some result =>
    obtain ⟨digits, others⟩ := result
    have letters (c : Char) (blank : isBlank c = true) :
        (c == 'e' || c == 'E' || c == 'j' || c == 'J') = false := by
      rw [beq_false_of_ne (Text.ne_of_isBlank blank (by decide)),
        beq_false_of_ne (Text.ne_of_isBlank blank (by decide)),
        beq_false_of_ne (Text.ne_of_isBlank blank (by decide)),
        beq_false_of_ne (Text.ne_of_isBlank blank (by decide))]
      rfl
    obtain ⟨middle, again, near⟩ : ∃ middle, digitRun? Char.isDigit (c :: clipped) = some (digits, middle) ∧
        Reaches chars clipped others middle := by
      rw [digitRun?_cons, if_pos digit] at run ⊢
      obtain ⟨⟨more, _⟩, read, same⟩ := Option.map_eq_some_iff.mp run
      cases same
      obtain ⟨middle, again, near⟩ := digitRun?_clipped (fun _ => Text.isDigit_of_isBlank) ends read
      exact ⟨middle, by rw [again]; rfl, near⟩
    rw [decimal_of_run run] at found
    rw [decimal_of_run again, ← near.ends.head?_any_eq letters]
    split at found
    · next point =>
      obtain ⟨more, rfl⟩ := List.head?_eq_some_iff.mp point
      obtain ⟨others, rfl, clip⟩ := near.ends.of_solid (by decide)
      obtain ⟨left, same, far⟩ := fraction_clipped clip found
      exact ⟨left, by simpa using same, near.trans (far.cons '.' '.')⟩
    · next pointless =>
      rw [if_neg (by rwa [← near.ends.head?_eq_iff (by decide)])]
      split at found
      · cases found
      · next led =>
        rw [if_neg led]
        obtain ⟨left, same, far⟩ := suffix_clipped near.ends found
        exact ⟨left, same, near.trans far⟩

def radixOf? (c : Char) : Option Radix :=
  [hexadecimal, octal, binary].find? (·.letter == c.toLower)

theorem isDigit_of_radixOf? {c : Char} {radix : Radix} (named : radixOf? c = some radix) (d : Char)
    (blank : isBlank d = true) : radix.isDigit d = false := by
  have digit := Text.isDigit_of_isBlank blank
  have member := List.mem_of_find?_eq_some named
  rw [Text.isBlank_iff, Char.toNat] at blank
  simp only [List.mem_cons, List.not_mem_nil, or_false] at member
  rcases member with rfl | rfl | rfl
  · simp only [hexadecimal, Text.isHex, digit, Bool.false_or, Bool.or_eq_false_iff, Bool.and_eq_false_iff,
      decide_eq_false_iff_not, Char.le_def, UInt32.le_iff_toNat_le, Char.reduceVal, UInt32.reduceToNat]
    omega
  · simp only [octal, Text.isOctal, Bool.and_eq_false_iff, decide_eq_false_iff_not, Char.le_def,
      UInt32.le_iff_toNat_le, Char.reduceVal, UInt32.reduceToNat]
    omega
  · have apart (other : Char) (digit_too : other.isDigit = true) : (d == other) = false := by
      refine beq_false_of_ne ?_
      rintro rfl
      rw [digit] at digit_too
      cases digit_too
    simp only [binary, apart '0' (by decide), apart '1' (by decide), Bool.or_self]

theorem radixOf?_of_isBlank {c : Char} (blank : isBlank c = true) : radixOf? c = none := by
  have solid : ∀ radix ∈ [hexadecimal, octal, binary], isBlank radix.letter = false := by
    simp only [List.mem_cons, List.not_mem_nil, or_false]
    rintro radix (rfl | rfl | rfl) <;> decide
  rw [radixOf?, Text.toLower_of_isBlank blank, List.find?_eq_none]
  intro radix member
  simpa using (Text.ne_of_isBlank blank (solid radix member)).symm

theorem scan_cons (c : Char) (chars : List Char) : scan (c :: chars) =
    match (if c = '0' then chars.head?.bind radixOf? else none) with
    | some radix => radix.scan (chars.drop 1)
    | none => decimal (c :: chars) := by
  by_cases zero : c = '0'
  · subst zero
    cases chars <;> rfl
  · cases chars <;> simp [scan, zero]

theorem scan_clipped {c : Char} (digit : c.isDigit = true) {number : Number}
    (ends : Clipped chars clipped) (found : scan (c :: chars) = .ok (number, rest)) :
    ∃ left, scan (c :: clipped) = .ok (number, left) ∧ Reaches chars clipped rest left := by
  rw [scan_cons] at found ⊢
  cases ends with
  | tail trailing =>
    obtain ⟨d, more, rfl, blank⟩ := trailing.exists_cons
    rw [List.head?_cons, Option.bind_some, radixOf?_of_isBlank blank, ite_self] at found
    rw [List.head?_cons, Option.bind_some, radixOf?_of_isBlank (by decide), ite_self]
    exact decimal_clipped digit (.tail trailing) found
  | cons d ends =>
    rw [List.head?_cons] at found ⊢
    split at found
    · next radix named =>
      have letter : radixOf? d = some radix := by
        split at named
        · exact named
        · cases named
      obtain ⟨left, same, reaches⟩ := Radix.scan_clipped (isDigit_of_radixOf? letter) ends found
      exact ⟨left, same, reaches.cons d d⟩
    · exact decimal_clipped digit (.cons d ends) found

end Refactory.Source.Numeral
