import Refactory.Proofs.Json.Search
import Refactory.Source.Fault
import Refactory.Text.Utf8

/-! How faults of sources and of their bytes are worded.

A fault is worded by fixed phrases, numbers and single characters of the source. So whatever the source holds, the
words never look like an entry of a JSON document: no quote in them is followed by a colon.
-/

set_option autoImplicit false

namespace Refactory

/-! ## Texts without keys -/

/-- No quote in the text is followed by a colon, as the quote at the end of a key would be. -/
def Text.Unkeyed (text : String) : Prop := ¬ ['"', ':'] <:+: text.toList

namespace Text.Unkeyed

theorem of_no_quote {text : String} (free : '"' ∉ text.toList) : Unkeyed text :=
  fun found => free (found.subset List.mem_cons_self)

theorem phrase {chars : List Char} (absent : occursIn ['"', ':'] chars = false) :
    Unkeyed (String.ofList chars) := by
  rw [Unkeyed, String.toList_ofList, ← occursIn_iff, absent]
  exact Bool.false_ne_true

theorem char (c : Char) : Unkeyed c.toString := by
  intro found
  have length := found.length_le
  simp at length

/-- Two texts can be put together if no quote of the first one meets a colon of the second. -/
theorem append {first second : String} (left : Unkeyed first) (right : Unkeyed second)
    (apart : first.toList.getLast? ≠ some '"' ∨ second.toList.head? ≠ some ':') : Unkeyed (first ++ second) := by
  intro found
  rw [String.toList_append] at found
  rcases List.infix_append_iff.mp found with before | after | ⟨start, rest, parts, ends, begins⟩
  · exact left before
  · exact right after
  · -- the first text ends with nothing of the two, with the quote, or with both
    cases start with
    | nil => exact right (parts ▸ begins.isInfix)
    | cons quote start =>
      obtain ⟨rfl, colon⟩ := List.cons.inj parts
      cases start with
      | nil =>
        obtain ⟨more, opened⟩ : [':'] <+: second.toList := colon ▸ begins
        obtain ⟨earlier, closed⟩ := ends
        rcases apart with unquoted | plain
        · exact unquoted (by rw [← closed, List.getLast?_concat])
        · exact plain (by rw [← opened]; rfl)
      | cons other start =>
        obtain ⟨rfl, nothing⟩ := List.cons.inj colon
        obtain ⟨rfl, rfl⟩ := List.append_eq_nil_iff.mp nothing.symm
        exact left ends.isInfix

/-- A text without quotes can be put after any other that does not end with one, and before any other. -/
theorem of_no_quote_append {first second : String} (free : '"' ∉ first.toList) (right : Unkeyed second) :
    Unkeyed (first ++ second) :=
  (of_no_quote free).append right (.inl fun last => free (List.mem_of_getLast? last))

end Text.Unkeyed

/-! ## The wording of faults -/

def Text.Unquoted (text : String) : Prop := '"' ∉ text.toList

namespace Text.Unquoted

theorem append {first second : String} (left : Unquoted first) (right : Unquoted second) :
    Unquoted (first ++ second) := by
  rw [Unquoted, String.toList_append, List.mem_append, not_or]
  exact ⟨left, right⟩

/-- A phrase is looked at as its characters: taking a string apart is slow. -/
theorem phrase {chars : List Char} (free : '"' ∉ chars) : Unquoted (String.ofList chars) := by
  rwa [Unquoted, String.toList_ofList]

theorem number (n : Nat) : Unquoted (toString n) := by
  intro quote
  have digits : (toString n).toList = Nat.toDigits 10 n := Nat.toList_repr
  rw [digits] at quote
  exact absurd (Nat.isDigit_of_mem_toDigits (by decide) (by decide) quote) (by decide)

theorem after {text : String} (plain : Unquoted text) {first : List Char} (opened : '"' ∉ first) :
    Unquoted (String.ofList first ++ text) :=
  (phrase opened).append plain

theorem between {text : String} (plain : Unquoted text) {first last : List Char} (opened : '"' ∉ first)
    (closed : '"' ∉ last) : Unquoted (String.ofList first ++ text ++ String.ofList last) :=
  (plain.after opened).append (phrase closed)

theorem unkeyed {text : String} (plain : Unquoted text) : Unkeyed text := .of_no_quote plain

end Text.Unquoted

/-- What follows any text begins with a phrase, and not with a colon. -/
theorem Text.Unkeyed.followed {first text : String} (left : Unkeyed first) {c : Char} {chars : List Char}
    (begins : c ≠ ':') (plain : Unquoted (String.ofList (c :: chars) ++ text)) :
    Unkeyed (first ++ (String.ofList (c :: chars) ++ text)) := by
  refine left.append plain.unkeyed (.inr ?_)
  rw [String.toList_append, List.head?_append, String.toList_ofList]
  exact fun colon => begins (Option.some.inj colon)

/-- A character of the source may be a quote; it stands before an apostrophe. -/
theorem Text.Unkeyed.marked {first : String} (left : Unkeyed first) (ends : first.toList.getLast? ≠ some '"')
    (c : Char) {rest : List Char} (free : '"' ∉ rest) :
    Unkeyed (first ++ c.toString ++ String.ofList ('\'' :: rest)) := by
  have plain : Unquoted (String.ofList ('\'' :: rest)) :=
    .phrase fun quote => free ((List.mem_cons.mp quote).resolve_left (by decide))
  refine (left.append (.char c) (.inl ends)).append plain.unkeyed (.inr ?_)
  rw [String.toList_ofList]
  exact (by decide : some '\'' ≠ some ':')

theorem Text.getLast?_ne_quote (first : String) {c : Char} {chars : List Char} (free : '"' ∉ c :: chars) :
    (first ++ String.ofList (c :: chars)).toList.getLast? ≠ some '"' := by
  have last : (first ++ String.ofList (c :: chars)).toList.getLast? = (c :: chars).getLast? := by
    simp [List.getLast?_append, List.getLast?_cons]
  rw [last]
  exact fun quote => free (List.mem_of_getLast? quote)

theorem Text.Unquoted.marked {first : String} (left : Unquoted first) (c : Char) {rest : List Char}
    (free : '"' ∉ rest) : Unkeyed (first ++ c.toString ++ String.ofList ('\'' :: rest)) :=
  left.unkeyed.marked (fun quote => left (List.mem_of_getLast? quote)) c free

/-- A character of the source, and something else that is told of it. -/
theorem Text.Unquoted.told {text : String} (plain : Unquoted text) {first rest last : List Char} (c : Char)
    (opened : '"' ∉ first) (free : '"' ∉ rest) (closed : '"' ∉ last) :
    Unkeyed (String.ofList first ++ c.toString ++ String.ofList ('\'' :: rest) ++ text ++
      String.ofList last) := by
  have mark := (Unquoted.phrase opened).marked c free
  have ends := Text.getLast?_ne_quote (String.ofList first ++ c.toString)
    (fun quote => free ((List.mem_cons.mp quote).resolve_left (by decide)) : '"' ∉ '\'' :: rest)
  rw [String.append_assoc]
  exact mark.append (plain.append (.phrase closed)).unkeyed (.inl ends)

theorem mem_toDigits {n : Nat} {c : Char} (member : c ∈ Nat.toDigits 16 n) :
    ∃ digit < 16, c = Nat.digitChar digit := by
  induction n using Nat.strongRecOn with
  | _ n ih =>
    by_cases small : n < 16
    · rw [Nat.toDigits_of_lt_base small] at member
      exact ⟨n, small, List.mem_singleton.mp member⟩
    · rw [Nat.toDigits_of_base_le (by decide) (by omega)] at member
      rcases List.mem_append.mp member with earlier | last
      · exact ih (n / 16) (by omega) earlier
      · exact ⟨n % 16, by omega, List.mem_singleton.mp last⟩

namespace Source

open Text (Unkeyed Unquoted)

theorem HeaderMark.unquoted (mark : HeaderMark) : Unquoted mark.text := by
  cases mark <;> exact .phrase (by decide)

theorem BlockWord.unquoted (word : BlockWord) : Unquoted word.text := by
  cases word <;> exact .phrase (by decide)

theorem BlockOwner.unquoted (owner : BlockOwner) : Unquoted owner.text := by
  cases owner with
  | function => exact .phrase (by decide)
  | classBody => exact .phrase (by decide)
  | statement word => exact (Unquoted.append (.phrase (by decide)) word.unquoted).append (.phrase (by decide))

theorem NumberKind.unquoted (kind : NumberKind) : Unquoted kind.text := by
  cases kind <;> exact .phrase (by decide)

theorem ComplexPart.unquoted (part : ComplexPart) : Unquoted part.text := by
  cases part <;> exact .phrase (by decide)

theorem FormerStatement.unquoted (callee : FormerStatement) : Unquoted callee.text := by
  cases callee <;> exact .phrase (by decide)

theorem ExprKind.unquoted (kind : ExprKind) : Unquoted kind.text := by
  cases kind <;> exact .phrase (by decide)

theorem EscapeReason.unquoted (reason : EscapeReason) : Unquoted reason.text := by
  cases reason <;> exact .phrase (by decide)

theorem EscapeFault.unquoted (fault : EscapeFault) : Unquoted fault.text := by
  cases fault with
  | undecodable reason first last =>
    refine .append (.append (.append (.append (.append ?_ (.number first)) ?_) (.number last)) ?_) reason.unquoted
    all_goals exact .phrase (by decide)
  | invalidByte position => exact .append (.phrase (by decide)) (.number position)

theorem DisplayFault.unquoted (fault : DisplayFault) : Unquoted fault.text := by
  cases fault <;> exact .phrase (by decide)

theorem ParameterFault.unquoted (fault : ParameterFault) : Unquoted fault.text := by
  cases fault <;> exact .phrase (by decide)

theorem ArgumentFault.text_unkeyed (fault : ArgumentFault) : Unkeyed fault.text := by
  cases fault <;> exact .phrase (by decide)

theorem HandlerFault.unquoted (fault : HandlerFault) : Unquoted fault.text := by
  cases fault <;> exact .phrase (by decide)

theorem PatternFault.unquoted (fault : PatternFault) : Unquoted fault.text := by
  cases fault with
  | number part => exact part.unquoted.append (.phrase (by decide))
  | _ => exact .phrase (by decide)

theorem codePoint_unquoted (c : Char) : Unquoted (codePoint c) := by
  have upper : ∀ digit < 16, (Nat.digitChar digit).toUpper ≠ '"' := by decide
  intro quote
  rw [codePoint, String.toList_ofList] at quote
  rcases List.mem_append.mp quote with zero | digit
  · exact absurd (List.eq_of_mem_replicate zero) (by decide)
  · obtain ⟨c, listed, same⟩ := List.mem_map.mp digit
    obtain ⟨value, small, rfl⟩ := mem_toDigits listed
    exact upper value small same

theorem unkeyed_mismatched {first : List Char} (free : '"' ∉ first) (closing opening : Char) :
    Unkeyed (String.ofList first ++ closing.toString ++ "' does not match opening parenthesis '" ++
      opening.toString ++ "'") := by
  have marked : Unkeyed (String.ofList first ++ closing.toString ++ "' does not match opening parenthesis '") :=
    Unquoted.marked (.phrase free) closing (by decide)
  exact marked.marked (Text.getLast?_ne_quote _ (by decide)) opening (by decide)

theorem FieldFault.text_unkeyed (fault : FieldFault) : Unkeyed fault.text := by
  cases fault with
  | unmatched bracket => exact Unquoted.marked (.phrase (by decide)) bracket (by decide)
  | emptyBefore sign => exact Unquoted.marked (.phrase (by decide)) sign (by decide)
  | mismatched closing opening => exact unkeyed_mismatched (by decide) closing opening
  | _ => exact (Unquoted.phrase (by decide)).unkeyed

/-- No fault is worded with a key. -/
theorem Fault.message_unkeyed (fault : Fault) : Unkeyed fault.message := by
  induction fault with
  | expected mark => exact (mark.unquoted.between (by decide) (by decide)).unkeyed
  | neverClosed bracket => exact Unquoted.marked (.phrase (by decide)) bracket (by decide)
  | unmatched bracket => exact Unquoted.marked (.phrase (by decide)) bracket (by decide)
  | mismatched closing opening openedOn =>
    cases openedOn with
    | none =>
      exact (unkeyed_mismatched (by decide) closing opening).append (Unquoted.phrase (by decide)).unkeyed
        (.inr (by decide))
    | some line =>
      exact (unkeyed_mismatched (by decide) closing opening).followed (by decide)
        ((Unquoted.number line).after (by decide))
  | missingBlock owner line => exact ((owner.unquoted.between (by decide) (by decide)).append (.number line)).unkeyed
  | unterminatedString line => exact ((Unquoted.number line).between (by decide) (by decide)).unkeyed
  | unterminatedBlockString line => exact ((Unquoted.number line).between (by decide) (by decide)).unkeyed
  | invalidNumber kind => exact (kind.unquoted.between (by decide) (by decide)).unkeyed
  | invalidDigit digit kind => exact kind.unquoted.told digit (by decide) (by decide) (by decide)
  | tooManyDigits count =>
    exact (((((Unquoted.phrase (by decide)).after (by decide)).append (.number count)).append
      (.phrase (by decide))).append (.phrase (by decide))).unkeyed
  | invalidCharacter c => exact (codePoint_unquoted c).told c (by decide) (by decide) (by decide)
  | unprintableCharacter c => exact ((codePoint_unquoted c).after (by decide)).unkeyed
  | missingParentheses callee =>
    exact (((callee.unquoted.between (by decide) (by decide)).append callee.unquoted).append
      (.phrase (by decide))).unkeyed
  | notAssignableHere what => exact (what.unquoted.between (by decide) (by decide)).unkeyed
  | notAssignable what => exact (what.unquoted.after (by decide)).unkeyed
  | notDeletable what => exact (what.unquoted.after (by decide)).unkeyed
  | notCombinable what => exact (what.unquoted.between (by decide) (by decide)).unkeyed
  | notSingle what => exact (what.unquoted.between (by decide) (by decide)).unkeyed
  | walrusTarget what => exact (what.unquoted.after (by decide)).unkeyed
  | badEscape detail => exact detail.unquoted.unkeyed
  | badField detail => exact detail.text_unkeyed
  | badDisplay detail => exact detail.unquoted.unkeyed
  | badParameters detail => exact detail.unquoted.unkeyed
  | badArguments detail => exact detail.text_unkeyed
  | badHandlers detail => exact detail.unquoted.unkeyed
  | badPattern detail => exact detail.unquoted.unkeyed
  | inField fault ih => exact .of_no_quote_append (Unquoted.phrase (by decide)) ih
  | leadingZeros => exact ((Unquoted.phrase (by decide)).after (by decide)).unkeyed
  | _ => exact (Unquoted.phrase (by decide)).unkeyed

theorem SyntaxError.message_unkeyed (error : SyntaxError) : Unkeyed error.message := by
  unfold SyntaxError.message
  cases error.line with
  | none => exact error.fault.message_unkeyed
  | some line =>
    have place : Unquoted (" (<unknown>, line " ++ (toString line ++ ")")) :=
      ((Unquoted.number line).append (.phrase (by decide))).after (by decide)
    dsimp only
    rw [String.append_assoc, String.append_assoc]
    exact error.fault.message_unkeyed.followed (by decide) place

end Source

theorem Text.Utf8.hexByte_unquoted (byte : UInt8) : Unquoted (hexByte byte) := by
  have digit (n : Nat) : '"' ≠ hexDigit n := (Json.digitChar_ne_quote _ (Nat.mod_lt n (by decide))).symm
  refine .phrase ?_
  simp only [List.mem_cons, List.not_mem_nil, or_false, not_or]
  exact ⟨digit _, digit _⟩

theorem Text.Utf8.Fault.message_unquoted (fault : Utf8.Fault) : Unquoted fault.message := by
  obtain ⟨cause, bytes, position⟩ := fault
  have told : Unquoted cause.text := by cases cause <;> exact .phrase (by decide)
  have range (first last : Nat) :
      Unquoted ("bytes in position " ++ toString first ++ "-" ++ toString last) :=
    (((Unquoted.phrase (by decide)).append (.number first)).append (.phrase (by decide))).append (.number last)
  have whole {place : String} (plain : Unquoted place) :
      Unquoted ("'utf-8' codec can't decode " ++ place ++ ": " ++ cause.text) :=
    (((Unquoted.phrase (by decide)).append plain).append (.phrase (by decide))).append told
  -- one byte is told by its value, several by where they stand
  rcases bytes with _ | ⟨byte, _ | ⟨second, rest⟩⟩
  · exact whole (range _ _)
  · exact whole ((((Unquoted.phrase (by decide)).append (hexByte_unquoted byte)).append (.phrase (by decide))).append
      (.number position))
  · exact whole (range _ _)

end Refactory
