import Refactory.Analysis.ComplexityReport
import Refactory.Proofs.Source.Wording
import Refactory.Proofs.Workspace.Saving

/-! What is told of a file that cannot be measured.

It has the words of the fault that kept it from being measured, so it never looks like an entry of a report.
-/

set_option autoImplicit false

namespace Refactory.Analysis

open Workspace Source

variable {tree : Tree} {path : String}

theorem measureFile_of_unreadable {fault : Workspace.Fault} (failed : tree.readText path = .error fault) :
    measureFile tree path = .error (.unreadable fault) := by
  unfold measureFile
  rw [failed]
  rfl

theorem measureFile_of_malformed {text : String} {error : SyntaxError} (read : tree.readText path = .ok text)
    (failed : Program.parse text = .error error) : measureFile tree path = .error (.malformed error) := by
  unfold measureFile
  rw [read]
  change ((Program.parse text).mapError _ >>= _) = _
  rw [failed]
  rfl

theorem measureFile_of_program {text : String} {program : Program} (read : tree.readText path = .ok text)
    (parsed : Program.parse text = .ok program) : measureFile tree path = .ok (complexityReport program) := by
  unfold measureFile
  rw [read]
  change ((Program.parse text).mapError _ >>= _) = _
  rw [parsed]
  rfl

/-- A file with bytes in it can only fail to be read by what its bytes are. -/
theorem encoding_of_readText {size : Nat} (counted : tree.byteCount path = .ok size) (some_byte : 0 < size)
    {fault : Workspace.Fault} (failed : tree.readText path = .error fault) : ∃ cause, fault = .encoding cause := by
  obtain ⟨noNull, place, bytes, found⟩ := Tree.lookup_of_byteCount counted some_byte
  unfold Tree.readText at failed
  rw [Tree.readBytes_of_lookup noNull found] at failed
  change ((Text.Utf8.decode bytes).mapError Fault.encoding >>= _) = _ at failed
  cases decoded : Text.Utf8.decode bytes with
  | error cause =>
    rw [decoded] at failed
    cases failed
    exact ⟨cause, rfl⟩
  | ok text =>
    rw [decoded] at failed
    cases failed

/-- The account of a file that cannot be measured holds no key. -/
theorem account_unkeyed {size : Nat} (counted : tree.byteCount path = .ok size) (some_byte : 0 < size)
    {fault : ReportFault} (failed : measureFile tree path = .error fault) :
    Text.Unkeyed (describeComplexity tree path) := by
  have told : Text.Unkeyed fault.message := by
    cases read : tree.readText path with
    | error cause =>
      obtain ⟨encoding, rfl⟩ := encoding_of_readText counted some_byte read
      rw [measureFile_of_unreadable read] at failed
      cases failed
      exact encoding.message_unquoted.unkeyed
    | ok text =>
      cases parsed : Program.parse text with
      | error error =>
        rw [measureFile_of_malformed read parsed] at failed
        cases failed
        exact error.message_unkeyed
      | ok program =>
        rw [measureFile_of_program read parsed] at failed
        cases failed
  unfold describeComplexity
  rw [failed]
  exact .of_no_quote_append (Text.Unquoted.phrase (by decide)) told

end Refactory.Analysis
