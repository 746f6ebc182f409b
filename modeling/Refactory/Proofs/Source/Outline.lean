import Refactory.Source.Outline

/-! The nodes listed breadth first are those that occur in the outline. -/

set_option autoImplicit false

namespace Refactory.Source

namespace Outline

inductive Occurs (node : Node) : Outline → Prop where
  | here {parts : List Outline} : Occurs node (.node node parts)
  | inside {label : Node} {parts : List Outline} {part : Outline} :
      part ∈ parts → Occurs node part → Occurs node (.node label parts)

theorem height_le_heights {part : Outline} {parts : List Outline} (member : part ∈ parts) :
    part.height ≤ heights parts := by
  induction parts with
  | nil => cases member
  | cons tree rest ih =>
    rw [heights]
    rcases List.mem_cons.mp member with rfl | later
    · exact Nat.le_max_left ..
    · exact Nat.le_trans (ih later) (Nat.le_max_right ..)

theorem occurs_of_mem_levels {node : Node} (depth : Nat) (trees : List Outline)
    (listed : node ∈ levels depth trees) : ∃ tree ∈ trees, Occurs node tree := by
  induction depth generalizing trees with
  | zero => cases listed
  | succ depth ih =>
    rw [levels] at listed
    rcases List.mem_append.mp listed with top | deeper
    · obtain ⟨tree, member, rfl⟩ := List.mem_map.mp top
      cases tree with
      | node label parts => exact ⟨_, member, .here⟩
    · obtain ⟨part, inner, occurs⟩ := ih _ deeper
      obtain ⟨tree, member, within⟩ := List.mem_flatMap.mp inner
      cases tree with
      | node label parts => exact ⟨_, member, .inside within occurs⟩

/-- Levels enough for the height of a tree reach every node of it. -/
theorem mem_levels_of_occurs {node : Node} {tree : Outline} (occurs : Occurs node tree) {depth : Nat}
    {trees : List Outline} (member : tree ∈ trees) (enough : tree.height ≤ depth) :
    node ∈ levels depth trees := by
  -- along the way to the node: each step down uses up one level and one of the height
  induction occurs generalizing depth trees with
  | here =>
    cases depth with
    | zero => simp [height] at enough
    | succ depth =>
      rw [levels]
      exact List.mem_append_left _ (List.mem_map.mpr ⟨_, member, rfl⟩)
  | inside within _ ih =>
    cases depth with
    | zero => simp [height] at enough
    | succ depth =>
      have bound := height_le_heights within
      rw [height] at enough
      rw [levels]
      apply List.mem_append_right
      exact ih (List.mem_flatMap.mpr ⟨_, member, within⟩) (by omega)

theorem mem_breadthFirst {node : Node} {tree : Outline} : node ∈ tree.breadthFirst ↔ Occurs node tree := by
  constructor
  · intro listed
    obtain ⟨found, member, occurs⟩ := occurs_of_mem_levels _ _ listed
    rwa [List.mem_singleton.mp member] at occurs
  · intro occurs
    exact mem_levels_of_occurs occurs (List.mem_singleton_self tree) (Nat.le_refl _)

end Outline

def Program.Holds (program : Program) (node : Node) : Prop := program.outline.Occurs node

theorem Program.mem_nodes {program : Program} {node : Node} : node ∈ program.nodes ↔ program.Holds node :=
  Outline.mem_breadthFirst

end Refactory.Source
