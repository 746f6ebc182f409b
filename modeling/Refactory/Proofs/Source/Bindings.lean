import Refactory.Proofs.Source.Contexts

/-! The ways in which a program binds names.

Some constructs bind the names in their targets, others carry the name that they bind. In a tidy outline
the names that are marked for binding are just those that stand in the targets of some construct.
-/

set_option autoImplicit false

namespace Refactory.Source

open Outline

inductive BindingForm where
  | assignment
  | loop
  | manager
  | walrus
  | comprehension
  | parameter
  | function
  | asyncFunction
  | classBody
  | handler
  | capture
  deriving DecidableEq, Repr

mutual

/-- The names that a target binds. An attribute or an item of something is bound without a name. -/
def Expr.targetNames : Expr → List String
  | .name id _ => [id]
  | .starred value _ => value.targetNames
  | .list items _ => allTargetNames items
  | .tuple items _ => allTargetNames items
  | _ => []

def allTargetNames : List Expr → List String
  | [] => []
  | target :: rest => target.targetNames ++ allTargetNames rest

end

theorem mem_allTargetNames {targets : List Expr} {name : String} :
    name ∈ allTargetNames targets ↔ ∃ target ∈ targets, name ∈ target.targetNames := by
  induction targets with
  | nil => simp [allTargetNames]
  | cons target rest ih => simp [allTargetNames, ih]

/-- The names that a construct binds by itself, not through its parts. -/
def Node.bindings : Node → List (BindingForm × String)
  | .stmt (.assign targets _) => (allTargetNames targets).map (.assignment, ·)
  | .stmt (.augAssign target _ _) => target.targetNames.map (.assignment, ·)
  | .stmt (.annAssign target _ _ _) => target.targetNames.map (.assignment, ·)
  | .stmt (.forLoop _ target _ _ _) => target.targetNames.map (.loop, ·)
  | .withItem ⟨_, some target⟩ => target.targetNames.map (.manager, ·)
  | .expr (.binding target _) => target.targetNames.map (.walrus, ·)
  | .clause (.mk target _ _ _) => target.targetNames.map (.comprehension, ·)
  | .parameter (.mk _ name _ _) => [(.parameter, name)]
  | .stmt (.functionDef false name _ _ _ _) => [(.function, name)]
  | .stmt (.functionDef true name _ _ _ _) => [(.asyncFunction, name)]
  | .stmt (.classDef name _ _ _ _) => [(.classBody, name)]
  | .handler (.mk _ (some name) _) => [(.handler, name)]
  | .pattern (.capture _ (some name)) => [(.capture, name)]
  | .pattern (.star (some name)) => [(.capture, name)]
  | .pattern (.mapping _ _ (some name)) => [(.capture, name)]
  | _ => []

def Program.BindsAs (program : Program) (form : BindingForm) (name : String) : Prop :=
  ∃ node, program.Holds node ∧ (form, name) ∈ node.bindings

def Program.bindings (program : Program) : List (BindingForm × String) :=
  program.nodes.flatMap Node.bindings

theorem Program.mem_bindings {program : Program} {form : BindingForm} {name : String} :
    (form, name) ∈ program.bindings ↔ program.BindsAs form name := by
  simp only [Program.bindings, List.mem_flatMap, Program.mem_nodes, Program.BindsAs]

instance (program : Program) (form : BindingForm) (name : String) :
    Decidable (program.BindsAs form name) :=
  decidable_of_iff _ Program.mem_bindings

def BindingForm.hasTargets : BindingForm → Bool
  | .assignment | .loop | .manager | .walrus | .comprehension => true
  | .parameter | .function | .asyncFunction | .classBody | .handler | .capture => false

/-! ## Targets and marks -/

theorem Node.label_outline (node : Node) : node.outline.label = node := by
  cases node with
  | expr found => exact found.label_outline
  | stmt found => cases found <;> rfl
  | pattern found => cases found <;> rfl
  | parameter found => cases found; rfl
  | keyword found => cases found; rfl
  | clause found => cases found; rfl
  | handler found => cases found; rfl
  | case found => cases found; rfl
  | _ => rfl

theorem outline_mem_exprOutlines {exprs : List Expr} {expr : Expr} (member : expr ∈ exprs) :
    expr.outline ∈ exprOutlines exprs := by
  rw [exprOutlines_eq_map]
  exact List.mem_map_of_mem member

theorem Node.target_mem_parts {node : Node} {target : Expr} (member : target ∈ node.targets) :
    target.outline ∈ node.outline.parts := by
  rw [Node.targets.eq_def] at member
  split at member
  · exact List.mem_append_left _ (outline_mem_exprOutlines member)
  · exact List.mem_singleton.mp member ▸ List.mem_cons_self
  · exact List.mem_singleton.mp member ▸ List.mem_cons_self
  · exact List.mem_singleton.mp member ▸ List.mem_cons_self
  · exact List.mem_singleton.mp member ▸ List.mem_cons_of_mem _ List.mem_cons_self
  · exact List.mem_singleton.mp member ▸ List.mem_cons_self
  · exact List.mem_singleton.mp member ▸ List.mem_cons_self
  · exact List.mem_singleton.mp member ▸ List.mem_cons_self
  · exact outline_mem_exprOutlines member
  · exact outline_mem_exprOutlines member
  · cases member

theorem Node.bindable_target {node : Node} {target : Expr} (tidy : node.outline.Tidy)
    (member : target ∈ node.targets) : target.Bindable := by
  have part := Node.target_mem_parts member
  have label := node.label_outline
  cases whole : node.outline with
  | node found parts =>
    rw [whole] at part label tidy
    cases label
    obtain ⟨fits, inner⟩ := tidy_node.mp tidy _ part
    rw [Expr.label_outline] at fits
    exact ⟨fits.mpr member, inner⟩

/-- A target is either part of a larger one or bound by its construct. -/
theorem Node.target_names {node : Node} {target : Expr} {name : String} (member : target ∈ node.targets)
    (named : name ∈ target.targetNames) :
    (∃ whole : Expr, node = .expr whole ∧ whole.isStored = true ∧ name ∈ whole.targetNames) ∨
      ∃ form : BindingForm, form.hasTargets = true ∧ (form, name) ∈ node.bindings := by
  have among {targets : List Expr} (listed : target ∈ targets) : name ∈ allTargetNames targets :=
    mem_allTargetNames.mpr ⟨target, listed, named⟩
  have alone {only : Expr} (listed : target ∈ [only]) : name ∈ only.targetNames :=
    List.mem_singleton.mp listed ▸ named
  rw [Node.targets.eq_def] at member
  split at member
  · exact .inr ⟨.assignment, rfl, List.mem_map_of_mem (among member)⟩
  · exact .inr ⟨.assignment, rfl, List.mem_map_of_mem (alone member)⟩
  · exact .inr ⟨.assignment, rfl, List.mem_map_of_mem (alone member)⟩
  · exact .inr ⟨.loop, rfl, List.mem_map_of_mem (alone member)⟩
  · exact .inr ⟨.manager, rfl, List.mem_map_of_mem (alone member)⟩
  · exact .inr ⟨.walrus, rfl, List.mem_map_of_mem (alone member)⟩
  · exact .inr ⟨.comprehension, rfl, List.mem_map_of_mem (alone member)⟩
  · have inner := alone member
    exact .inl ⟨_, rfl, rfl, inner⟩
  · exact .inl ⟨_, rfl, rfl, among member⟩
  · exact .inl ⟨_, rfl, rfl, among member⟩
  · cases member

/-- A name that is marked for binding belongs to the whole, if that is a target, or is bound by some
construct in it. -/
theorem Outline.Tidy.stored {tree : Outline} {name : String} (tidy : tree.Tidy)
    (occurs : tree.Occurs (.expr (.name name .store))) :
    (∃ whole : Expr, tree.label = .expr whole ∧ whole.isStored = true ∧ name ∈ whole.targetNames) ∨
      ∃ node, tree.Occurs node ∧ ∃ form : BindingForm, form.hasTargets = true ∧
        (form, name) ∈ node.bindings := by
  -- up from the mark: a name is handed on from target to target, until a construct binds it
  induction occurs with
  | here => exact .inl ⟨_, rfl, rfl, List.mem_singleton_self name⟩
  | inside within _ ih =>
    obtain ⟨fits, inner⟩ := tidy_node.mp tidy _ within
    rcases ih inner with ⟨target, label, stored, named⟩ | ⟨node, occurs, bound⟩
    · rw [label] at fits
      rcases Node.target_names (fits.mp stored) named with whole | bound
      · exact .inl whole
      · exact .inr ⟨_, .here, bound⟩
    · exact .inr ⟨node, .inside within occurs, bound⟩

mutual

theorem Expr.Bindable.occurs : ∀ {target : Expr} {name : String}, target.Bindable →
    name ∈ target.targetNames → target.outline.Occurs (.expr (.name name .store))
  | .name _ context, _, bindable, named => by
      cases List.mem_singleton.mp named
      cases context with
      | store => exact .here
      | load | delete => cases bindable.marked
  | .starred value context, _, bindable, named => by
      cases context with
      | store =>
        have inner := tidyParts_targets.mp (tidy_node.mp bindable.tidy) value List.mem_cons_self
        exact .inside List.mem_cons_self (inner.occurs named)
      | load | delete => cases bindable.marked
  | .list items context, _, bindable, named => by
      cases context with
      | store =>
        have inner := tidyParts_targets.mp (tidy_node.mp bindable.tidy)
        obtain ⟨part, within, occurs⟩ := allBindable_occurs inner named
        exact .inside within occurs
      | load | delete => cases bindable.marked
  | .tuple items context, _, bindable, named => by
      cases context with
      | store =>
        have inner := tidyParts_targets.mp (tidy_node.mp bindable.tidy)
        obtain ⟨part, within, occurs⟩ := allBindable_occurs inner named
        exact .inside within occurs
      | load | delete => cases bindable.marked

theorem allBindable_occurs : ∀ {targets : List Expr} {name : String}, (∀ target ∈ targets, target.Bindable) →
    name ∈ allTargetNames targets →
      ∃ part ∈ exprOutlines targets, part.Occurs (.expr (.name name .store))
  | [], _, _, named => by cases named
  | target :: rest, _, bindable, named => by
      rw [List.forall_mem_cons] at bindable
      rcases List.mem_append.mp named with first | later
      · exact ⟨_, List.mem_cons_self, bindable.1.occurs first⟩
      · obtain ⟨part, within, occurs⟩ := allBindable_occurs bindable.2 later
        exact ⟨part, List.mem_cons_of_mem _ within, occurs⟩

end

theorem Node.target_of_binding {node : Node} {form : BindingForm} {name : String}
    (bound : (form, name) ∈ node.bindings) (targeted : form.hasTargets = true) :
    ∃ target ∈ node.targets, name ∈ target.targetNames := by
  have named {which : BindingForm} {names : List String} (listed : (form, name) ∈ names.map (which, ·)) :
      name ∈ names := by
    obtain ⟨found, member, same⟩ := List.mem_map.mp listed
    cases same
    exact member
  have untargeted {which : BindingForm} {own : String} (bare : which.hasTargets = false)
      (listed : (form, name) ∈ [(which, own)]) : ∃ target ∈ node.targets, name ∈ target.targetNames := by
    cases List.mem_singleton.mp listed
    rw [bare] at targeted
    cases targeted
  rw [Node.bindings.eq_def] at bound
  split at bound
  · exact mem_allTargetNames.mp (named bound)
  · exact ⟨_, List.mem_cons_self, named bound⟩
  · exact ⟨_, List.mem_cons_self, named bound⟩
  · exact ⟨_, List.mem_cons_self, named bound⟩
  · exact ⟨_, List.mem_cons_self, named bound⟩
  · exact ⟨_, List.mem_cons_self, named bound⟩
  · exact ⟨_, List.mem_cons_self, named bound⟩
  · exact untargeted rfl bound
  · exact untargeted rfl bound
  · exact untargeted rfl bound
  · exact untargeted rfl bound
  · exact untargeted rfl bound
  · exact untargeted rfl bound
  · exact untargeted rfl bound
  · exact untargeted rfl bound
  · cases bound

theorem Outline.Tidy.of_occurs {tree : Outline} {node : Node} (tidy : tree.Tidy) (faithful : tree.Faithful)
    (occurs : tree.Occurs node) : node.outline.Tidy := by
  induction occurs with
  | here =>
    cases faithful with
    | node whole _ => rwa [whole]
  | inside within _ ih =>
    cases faithful with
    | node _ inner => exact ih (tidy_node.mp tidy _ within).2 (inner _ within)

theorem Outline.Occurs.of_part {tree part : Outline} {node : Node} (within : part ∈ tree.parts)
    (occurs : part.Occurs node) : tree.Occurs node := by
  cases tree with
  | node label parts => exact .inside within occurs

/-- In a tidy program the names that are marked for binding are those in the targets. -/
theorem Program.stored_iff {program : Program} {name : String} (tidy : program.outline.Tidy) :
    program.Holds (.expr (.name name .store)) ↔
      ∃ form : BindingForm, form.hasTargets = true ∧ program.BindsAs form name := by
  constructor
  · intro holds
    rcases tidy.stored holds with ⟨whole, label, _⟩ | ⟨node, occurs, form, targeted, bound⟩
    · cases label
    · exact ⟨form, targeted, node, occurs, bound⟩
  · rintro ⟨form, targeted, node, holds, bound⟩
    obtain ⟨target, member, named⟩ := Node.target_of_binding bound targeted
    have tidyNode := tidy.of_occurs program.outline_faithful holds
    have occurs := (Node.bindable_target tidyNode member).occurs named
    exact holds.trans (.of_part (Node.target_mem_parts member) occurs)

end Refactory.Source
