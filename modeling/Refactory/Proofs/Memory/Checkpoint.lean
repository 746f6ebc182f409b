import Refactory.Memory.Checkpoint
import Refactory.Proofs.Memory.Bank

/-! A session that has been saved is the one that is loaded next, in its normal form. -/

set_option autoImplicit false

namespace Refactory.Memory.Checkpoint

open Json Workspace

/-- The record of a session is read as one with the normal forms of its stage and data. -/
theorem readsAs_record (clock : Float) {stage data : Value} (stored : Storable stage) (kept : Storable data) :
    ∃ stamp, ReadsAs (record (.float clock) stage data) (record (.float stamp) (normal stage) (normal data)) := by
  obtain ⟨stamp, time⟩ := readsAs_float clock
  have whole := ReadsAs.dict [((.text "timestamp", .float clock), .float stamp),
    ((.text "stage", stage), normal stage), ((.text "data", data), normal data)]
    (by simpa using ⟨time, stored.readsAs, kept.readsAs⟩)
  have distinct : Table.merged [("timestamp", Value.float stamp), ("stage", normal stage), ("data", normal data)] =
      [("timestamp", Value.float stamp), ("stage", normal stage), ("data", normal data)] :=
    Table.merged_of_nodup (by simp)
  simp only [List.map_cons, List.map_nil, keyName, distinct] at whole
  exact ⟨stamp, whole⟩

/-- A session is loaded as it was saved: its stage and data come back in their normal form, and as they
were if all their keys are texts. -/
theorem load_saved (tree : Tree) (clock : Float) {stage data : Value} (stored : Storable stage)
    (kept : Storable data) (writable : (tree.writable path).isOk = true) :
    ∃ after stamp, save tree (.float clock) stage data = .ok after ∧
      load after = .ok (.dict [(.text "timestamp", .float stamp), (.text "stage", normal stage),
        (.text "data", normal data)]) ∧
      (TextKeyed stage → normal stage = stage) ∧ (TextKeyed data → normal data = data) := by
  have noNull : '\x00' ∉ path.toList := by decide
  obtain ⟨stamp, reads⟩ := readsAs_record clock stored kept
  cases goal : tree.writable path with
  | error cause =>
    rw [goal] at writable
    cases writable
  | ok place =>
    obtain ⟨there, document⟩ := readDocument_written noNull goal .line reads
    have saved : save tree (.float clock) stage data = .ok (tree.put place
        (.file (Text.Utf8.encode (render .line (record (.float clock) stage data))))) := by
      unfold save
      rw [Tree.writeText_eq noNull goal]
      rfl
    refine ⟨_, stamp, saved, ?_, TextKeyed.normal_eq, TextKeyed.normal_eq⟩
    unfold load
    rw [if_pos there, document]
    rfl

def colliding : Value :=
  .dict [(.int 1, .text "\"🚀\\\r"), (.none, .none), (.text "1", .list [.int (-7)])]

theorem colliding_storable : Storable colliding := by
  refine .dict (fun entry member => ?_) fun entry member => ?_
  · simp only [List.mem_cons, List.not_mem_nil, or_false] at member
    rcases member with rfl | rfl | rfl
    · exact (by decide : (Nat.toDigits 10 1).length ≤ digitLimit)
    · trivial
    · trivial
  · simp only [List.mem_cons, List.not_mem_nil, or_false] at member
    rcases member with rfl | rfl | rfl
    · exact .text _
    · exact .none
    · refine .list fun item listed => ?_
      rw [List.mem_singleton.mp listed]
      exact .int (by decide : (Nat.toDigits 10 7).length ≤ digitLimit)

theorem colliding_loaded : (Tree.empty.writable path).isOk = true ∧
    ∃ after stamp, save Tree.empty (.float 0) (.text "ANALYSIS") colliding = .ok after ∧
      load after = .ok (.dict [(.text "timestamp", .float stamp), (.text "stage", .text "ANALYSIS"),
        (.text "data", .dict [(.text "1", .list [.int (-7)]), (.text "null", .none)])]) := by
  have writable : (Tree.empty.writable path).isOk = true := by decide +kernel
  obtain ⟨after, stamp, saved, loaded, _⟩ :=
    load_saved Tree.empty 0 (.text "ANALYSIS") colliding_storable writable
  exact ⟨writable, after, stamp, saved, loaded⟩

end Refactory.Memory.Checkpoint
