import Refactory.Proofs.Value
import Refactory.Sample.Arithmetic

/-! Programs for the same operations, and where they differ.

A fault is part of what a program comes to, so programs that agree also test their operands in the same
order. The two chains of four operations agree everywhere. The calculator with a table differs from the
one with a chain where an operation cannot be looked up, and where the zero that stands for a product is
an integer in one of them and a double in the other.
-/

set_option autoImplicit false

namespace Refactory.Sample

namespace Calculator

variable {left right operation : Value}

/-! ## Signs of two operands -/

/-- The tests of the two signs come to an end and do not both hold. The second operand is tested only if
the first is positive. -/
def SignsFail (left right : Value) : Prop :=
  left.compareWith .greater 0 = .ok false ∨
    left.compareWith .greater 0 = .ok true ∧ right.compareWith .greater 0 = .ok false

theorem bothPositive_eq_false_iff : bothPositive left right = .ok false ↔ SignsFail left right := by
  unfold bothPositive SignsFail
  cases left.compareWith .greater 0 with
  | error fault =>
    change Except.error fault = Except.ok false ↔ _
    simp
  | ok positive =>
    cases positive with
    | false =>
      change Except.ok false = Except.ok false ↔ _
      simp
    | true =>
      change right.compareWith .greater 0 = .ok false ↔ _
      simp

/-- A test within a test decides as the test of both does, with the same fault if one is raised. -/
theorem nested_tests (left right : Value) (both otherwise : Except ValueFault Value) :
    (do if ← left.compareWith .greater 0 then
          if ← right.compareWith .greater 0 then both else otherwise
        else otherwise) =
      (do if ← bothPositive left right then both else otherwise) := by
  unfold bothPositive
  cases left.compareWith .greater 0 with
  | error fault => rfl
  | ok positive => cases positive <;> rfl

/-! ## Tables and chains -/

def productOr (zero left right : Value) : Except ValueFault Value := do
  if ← bothPositive left right then left.multiply right else return zero

def chain (zero left right operation : Value) : Except ValueFault Value :=
  if operation.equals (.text "add") then left.add right
  else if operation.equals (.text "sub") then left.subtract right
  else if operation.equals (.text "mul") then productOr zero left right
  else .ok .none

theorem branching_eq_chain (left right operation : Value) :
    branching left right operation = chain (.int 0) left right operation := by
  unfold branching chain productOr
  rw [← nested_tests]

/-- An operation that can be looked up is treated as in a chain. -/
theorem tabled_eq_chain (hashed : operation.key? ≠ none) (left right : Value) :
    tabled left right operation = chain (.float 0) left right operation := by
  cases found : operation.key? with
  | none => exact absurd found hashed
  | some key =>
    -- the keys of the table are tested in the order in which the chain tests the operation
    have same (name : String) : (Key.text name).same key = operation.equals (.text name) := by
      rw [Bool.eq_iff_iff, Key.text_same_iff, Value.equals_text_iff, ← Value.key?_eq_text_iff, found,
        Option.some.injEq]
    simp only [tabled, found, operations, List.find?_cons, same, chain]
    cases operation.equals (.text "add") <;> cases operation.equals (.text "sub") <;>
      cases operation.equals (.text "mul") <;> rfl

theorem chain_of_unhashed (unhashed : operation.key? = none) (zero left right : Value) :
    chain zero left right operation = .ok .none := by
  have passed (name : String) : ¬ operation.equals (.text name) = true := by
    rw [Value.equals_text_iff, ← Value.key?_eq_text_iff, unhashed]
    exact (Option.some_ne_none _).symm
  rw [chain, if_neg (passed "add"), if_neg (passed "sub"), if_neg (passed "mul")]

theorem tabled_of_unhashed (unhashed : operation.key? = none) (left right : Value) :
    tabled left right operation = .error (.unhashable operation.kind) := by
  unfold tabled
  rw [unhashed]

theorem chain_product (zero left right : Value) :
    chain zero left right (.text "mul") = productOr zero left right := rfl

theorem productOr_of_signsFail (fails : SignsFail left right) (zero : Value) :
    productOr zero left right = .ok zero := by
  rw [productOr, bothPositive_eq_false_iff.mpr fails]
  rfl

/-- The zero shows only where the signs fail or the product is not asked for. -/
theorem chain_congr {first second : Value} (apart : ¬ (operation = .text "mul" ∧ SignsFail left right)) :
    chain first left right operation = chain second left right operation := by
  unfold chain
  refine ite_congr rfl (fun _ => rfl) fun _ => ite_congr rfl (fun _ => rfl) fun _ =>
    ite_congr rfl (fun product => ?_) fun _ => rfl
  have decided : bothPositive left right ≠ .ok false := fun fails =>
    apart ⟨Value.equals_text_iff.mp product, bothPositive_eq_false_iff.mp fails⟩
  unfold productOr
  cases tested : bothPositive left right with
  | error fault => rfl
  | ok both =>
    cases both with
    | true => rfl
    | false => exact absurd tested decided

/-! ## Where the calculators differ -/

/-- The calculators come to the same value or the same fault, except exactly for an operation that is a
list or a dictionary, which only the table refuses, and for a product whose signs fail, where the table
gives the double zero and the chain the integer. -/
theorem calculators_differ_iff (left right operation : Value) :
    (tabled left right operation ≠ branching left right operation ↔
      (operation.kind = .list ∨ operation.kind = .dict) ∨ operation = .text "mul" ∧ SignsFail left right) ∧
    (operation.kind = .list ∨ operation.kind = .dict →
      tabled left right operation = .error (.unhashable operation.kind) ∧
        branching left right operation = .ok .none) ∧
    (operation = .text "mul" → SignsFail left right →
      tabled left right operation = .ok (.float 0) ∧ branching left right operation = .ok (.int 0)) := by
  rw [branching_eq_chain, ← Value.key?_eq_none_iff]
  have refused (unhashed : operation.key? = none) :
      tabled left right operation = .error (.unhashable operation.kind) ∧
        chain (.int 0) left right operation = .ok .none :=
    ⟨tabled_of_unhashed unhashed left right, chain_of_unhashed unhashed ..⟩
  have zeros (product : operation = .text "mul") (fails : SignsFail left right) :
      tabled left right operation = .ok (.float 0) ∧ chain (.int 0) left right operation = .ok (.int 0) := by
    subst product
    have hashed : (Value.text "mul").key? ≠ none := Option.some_ne_none _
    rw [tabled_eq_chain hashed, chain_product, chain_product, productOr_of_signsFail fails,
      productOr_of_signsFail fails]
    exact ⟨rfl, rfl⟩
  refine ⟨⟨fun differ => ?_, ?_⟩, refused, zeros⟩
  · by_cases unhashed : operation.key? = none
    · exact .inl unhashed
    · refine .inr (Classical.byContradiction fun apart => differ ?_)
      exact (tabled_eq_chain unhashed left right).trans (chain_congr apart)
  · rintro (unhashed | ⟨product, fails⟩) same
    · rw [(refused unhashed).1, (refused unhashed).2] at same
      cases same
    · rw [(zeros product fails).1, (zeros product fails).2] at same
      cases same

-- The second operand is not looked at here, so it need not be a number.
example : branching (.int (-1)) (.text "a") (.text "mul") = .ok (.int 0) := rfl

end Calculator

namespace Arithmetic

/-- Both programs of four operations come to the same value or the same fault. -/
theorem nested_eq_split (left right operation : Value) :
    nested left right operation = split left right operation := by
  unfold nested split positiveProduct quotient
  rw [← Calculator.nested_tests]

end Arithmetic

end Refactory.Sample
