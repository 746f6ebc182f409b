import Refactory.Proofs.Source.Parts
import Refactory.Source.Target

/-! Expressions that are marked for binding, and where they stand.

In a tidy outline the expressions that are marked for binding are the targets of the constructs that they
stand in, and no others. A part of a target that is a sequence is a target in turn.
-/

set_option autoImplicit false

namespace Refactory.Source

def Expr.isStored : Expr → Bool
  | .name _ .store | .attribute _ _ .store | .subscript _ _ .store | .starred _ .store
  | .list _ .store | .tuple _ .store => true
  | _ => false

/-- The targets of a node: what it binds, or its parts if it is to be bound part by part. -/
def Node.targets : Node → List Expr
  | .stmt (.assign targets _) => targets
  | .stmt (.augAssign target _ _) => [target]
  | .stmt (.annAssign target _ _ _) => [target]
  | .stmt (.forLoop _ target _ _ _) => [target]
  | .withItem ⟨_, some target⟩ => [target]
  | .expr (.binding target _) => [target]
  | .clause (.mk target _ _ _) => [target]
  | .expr (.starred value .store) => [value]
  | .expr (.list items .store) => items
  | .expr (.tuple items .store) => items
  | _ => []

/-- An expression is marked for binding exactly if it is one of the targets. -/
def Node.Fits (targets : List Expr) : Node → Prop
  | .expr found => found.isStored = true ↔ found ∈ targets
  | _ => True

namespace Outline

/-- Below every label, the targets of the label and no other expressions are marked for binding. -/
inductive Tidy : Outline → Prop where
  | node {label : Node} {parts : List Outline} (fit : ∀ part ∈ parts, part.label.Fits label.targets)
      (inner : ∀ part ∈ parts, Tidy part) : Tidy (.node label parts)

/-- The outlines are tidy, and among them the targets are marked for binding. -/
def TidyParts (targets : List Expr) (parts : List Outline) : Prop :=
  ∀ part ∈ parts, part.label.Fits targets ∧ part.Tidy

theorem tidy_node {label : Node} {parts : List Outline} :
    Tidy (.node label parts) ↔ TidyParts label.targets parts := by
  constructor
  · rintro (⟨fit, inner⟩) part member
    exact ⟨fit part member, inner part member⟩
  · intro tidy
    exact .node (fun part member => (tidy part member).1) (fun part member => (tidy part member).2)

end Outline

open Outline

structure Expr.Plain (expr : Expr) : Prop where
  unmarked : expr.isStored = false
  tidy : expr.outline.Tidy

structure Expr.Bindable (expr : Expr) : Prop where
  marked : expr.isStored = true
  tidy : expr.outline.Tidy

/-! ## Parts of plain constructs -/

section Parts

variable {targets : List Expr}

@[simp] theorem tidyParts_nil : TidyParts targets [] := by simp [TidyParts]

@[simp] theorem tidyParts_append {first second : List Outline} :
    TidyParts targets (first ++ second) ↔ TidyParts targets first ∧ TidyParts targets second := by
  exact List.forall_mem_append

theorem tidyParts_cons {part : Outline} {rest : List Outline} :
    TidyParts targets (part :: rest) ↔
      (part.label.Fits targets ∧ part.Tidy) ∧ TidyParts targets rest := by
  simp only [TidyParts, List.forall_mem_cons]

theorem Expr.plain_iff {expr : Expr} : expr.Plain ↔ expr.outline.label.Fits [] ∧ expr.outline.Tidy := by
  rw [expr.label_outline]
  constructor
  · rintro ⟨unmarked, tidy⟩
    exact ⟨by simp [Node.Fits, unmarked], tidy⟩
  · rintro ⟨fits, tidy⟩
    exact ⟨by simpa [Node.Fits] using fits, tidy⟩

@[simp] theorem tidyParts_expr {expr : Expr} {rest : List Outline} :
    TidyParts [] (expr.outline :: rest) ↔ expr.Plain ∧ TidyParts [] rest := by
  rw [tidyParts_cons, Expr.plain_iff]

@[simp] theorem tidyParts_exprs {exprs : List Expr} :
    TidyParts [] (exprOutlines exprs) ↔ ∀ expr ∈ exprs, expr.Plain := by
  induction exprs with
  | nil => simp [exprOutlines]
  | cons expr rest ih => rw [exprOutlines, tidyParts_expr, ih, List.forall_mem_cons]

@[simp] theorem tidyParts_option {expr : Option Expr} :
    TidyParts [] (optionOutline expr) ↔ ∀ found ∈ expr, found.Plain := by
  cases expr <;> simp [optionOutline]

theorem Outline.TidyParts.beside {parts : List Outline} (plain : TidyParts [] parts)
    (marked : ∀ target ∈ targets, target.isStored = true) : TidyParts targets parts := by
  intro part member
  obtain ⟨fits, tidy⟩ := plain part member
  refine ⟨?_, tidy⟩
  -- only expressions can be targets, and one that is unmarked is none
  cases label : part.label with
  | expr found =>
    rw [label] at fits
    have unmarked : ¬ found.isStored = true := fun stored => List.not_mem_nil (fits.mp stored)
    exact iff_of_false unmarked fun target => unmarked (marked found target)
  | _ => trivial

theorem tidyParts_map {α : Type} {outline : α → Outline}
    (other : ∀ item, (outline item).label.Fits targets) {items : List α} :
    TidyParts targets (items.map outline) ↔ ∀ item ∈ items, (outline item).Tidy := by
  simp only [TidyParts, List.forall_mem_map, other, true_and]

@[simp] theorem tidyParts_parameters {parameters : List Parameter} :
    TidyParts targets (parameterOutlines parameters) ↔
      ∀ parameter ∈ parameters, parameter.outline.Tidy := by
  rw [parameterOutlines_eq_map]
  exact tidyParts_map fun parameter => by cases parameter; trivial

@[simp] theorem tidyParts_keywords {keywords : List Keyword} :
    TidyParts targets (keywordOutlines keywords) ↔ ∀ keyword ∈ keywords, keyword.outline.Tidy := by
  rw [keywordOutlines_eq_map]
  exact tidyParts_map fun keyword => by cases keyword; trivial

@[simp] theorem tidyParts_clauses {clauses : List Clause} :
    TidyParts targets (clauseOutlines clauses) ↔ ∀ clause ∈ clauses, clause.outline.Tidy := by
  rw [clauseOutlines_eq_map]
  exact tidyParts_map fun clause => by cases clause; trivial

@[simp] theorem tidyParts_patterns {patterns : List Pattern} :
    TidyParts targets (patternOutlines patterns) ↔ ∀ pattern ∈ patterns, pattern.outline.Tidy := by
  rw [patternOutlines_eq_map]
  exact tidyParts_map fun pattern => by cases pattern <;> trivial

@[simp] theorem tidyParts_withItems {items : List WithItem} :
    TidyParts targets (items.map WithItem.outline) ↔ ∀ item ∈ items, item.outline.Tidy :=
  @tidyParts_map targets WithItem WithItem.outline (fun _ => trivial) items

@[simp] theorem tidyParts_stmts {stmts : List Stmt} :
    TidyParts targets (stmtOutlines stmts) ↔ ∀ stmt ∈ stmts, stmt.outline.Tidy := by
  rw [stmtOutlines_eq_map]
  exact tidyParts_map fun stmt => by cases stmt <;> trivial

@[simp] theorem tidyParts_handlers {handlers : List Handler} :
    TidyParts targets (handlerOutlines handlers) ↔ ∀ handler ∈ handlers, handler.outline.Tidy := by
  rw [handlerOutlines_eq_map]
  exact tidyParts_map fun handler => by cases handler; trivial

@[simp] theorem tidyParts_cases {cases : List Case} :
    TidyParts targets (caseOutlines cases) ↔ ∀ case ∈ cases, case.outline.Tidy := by
  rw [caseOutlines_eq_map]
  exact tidyParts_map fun case => by cases case; trivial

end Parts

def DictItem.Plain : DictItem → Prop
  | .entry key value => key.Plain ∧ value.Plain
  | .spread value => value.Plain

theorem tidyParts_items {items : List DictItem} (plain : ∀ item ∈ items, item.Plain) :
    TidyParts [] (keyOutlines items) ∧ TidyParts [] (valueOutlines items) := by
  induction items with
  | nil => simp [keyOutlines, valueOutlines]
  | cons item rest ih =>
    rw [List.forall_mem_cons] at plain
    obtain ⟨keys, values⟩ := ih plain.2
    cases item with
    | entry key value =>
      obtain ⟨plainKey, plainValue⟩ := plain.1
      simp [keyOutlines, valueOutlines, plainKey, plainValue, keys, values]
    | spread value =>
      have plainValue : value.Plain := plain.1
      simp [keyOutlines, valueOutlines, plainValue, keys, values]

/-! ## Targets -/

theorem tidyParts_targets {targets : List Expr} :
    TidyParts targets (exprOutlines targets) ↔ ∀ target ∈ targets, target.Bindable := by
  rw [exprOutlines_eq_map]
  simp only [TidyParts, List.forall_mem_map, Expr.label_outline, Node.Fits]
  constructor
  · intro tidy target member
    exact ⟨(tidy target member).1.mpr member, (tidy target member).2⟩
  · intro bindable target member
    exact ⟨iff_of_true (bindable target member).marked member, (bindable target member).tidy⟩

/-- A construct with one target is tidy if what stands beside the target is plain. -/
theorem tidyParts_target {target : Expr} {rest : List Outline} (bindable : target.Bindable)
    (plain : TidyParts [] rest) : TidyParts [target] (target.outline :: rest) := by
  have alone : TidyParts [target] [target.outline] :=
    tidyParts_targets.mpr (by simpa using bindable)
  have others : TidyParts [target] rest := plain.beside (by simpa using bindable.marked)
  exact tidyParts_append.mpr ⟨alone, others⟩

/-- A construct without targets is tidy if its parts are plain. -/
theorem Outline.tidy_of_plain {label : Node} {parts : List Outline} (bare : label.targets = [])
    (plain : TidyParts [] parts) : Tidy (.node label parts) := by
  rw [tidy_node, bare]
  exact plain

theorem Expr.plain_iff_parts {expr : Expr} {parts : List Outline}
    (whole : expr.outline = .node (.expr expr) parts) (unmarked : expr.isStored = false)
    (bare : (Node.expr expr).targets = []) : expr.Plain ↔ TidyParts [] parts := by
  constructor
  · intro plain
    have tidy := plain.tidy
    rwa [whole, tidy_node, bare] at tidy
  · intro parts
    refine ⟨unmarked, ?_⟩
    rw [whole]
    exact tidy_of_plain bare parts

@[simp] theorem Expr.plain_constant (value : Constant) : (Expr.constant value).Plain :=
  (Expr.plain_iff_parts rfl rfl rfl).mpr tidyParts_nil

@[simp] theorem Expr.plain_name (id : String) : (Expr.name id .load).Plain :=
  (Expr.plain_iff_parts rfl rfl rfl).mpr tidyParts_nil

@[simp] theorem Expr.plain_attribute {value : Expr} {attr : String} :
    (Expr.attribute value attr .load).Plain ↔ value.Plain :=
  (Expr.plain_iff_parts rfl rfl rfl).trans (by simp)

@[simp] theorem Expr.plain_starred {value : Expr} : (Expr.starred value .load).Plain ↔ value.Plain :=
  (Expr.plain_iff_parts rfl rfl rfl).trans (by simp)

@[simp] theorem Expr.plain_tuple {items : List Expr} :
    (Expr.tuple items .load).Plain ↔ ∀ item ∈ items, item.Plain :=
  (Expr.plain_iff_parts rfl rfl rfl).trans (by simp)

@[simp] theorem Expr.plain_unary {op : UnaryOperator} {operand : Expr} :
    (Expr.unary op operand).Plain ↔ operand.Plain :=
  (Expr.plain_iff_parts rfl rfl rfl).trans (by simp)

@[simp] theorem Expr.plain_binary {left right : Expr} {op : BinaryOperator} :
    (Expr.binary left op right).Plain ↔ left.Plain ∧ right.Plain :=
  (Expr.plain_iff_parts rfl rfl rfl).trans (by simp)

@[simp] theorem Expr.plain_generator {element : Expr} {clauses : List Clause} :
    (Expr.generator element clauses).Plain ↔
      element.Plain ∧ ∀ clause ∈ clauses, clause.outline.Tidy :=
  (Expr.plain_iff_parts rfl rfl rfl).trans (by simp)

@[simp] theorem Expr.plain_formatted {parts : List Expr} :
    (Expr.formatted parts).Plain ↔ ∀ part ∈ parts, part.Plain :=
  (Expr.plain_iff_parts rfl rfl rfl).trans (by simp)

theorem Expr.Plain.starred {value : Expr} {context : Context} (plain : (Expr.starred value context).Plain) :
    value.Plain := by
  cases context with
  | store => cases plain.unmarked
  | load | delete => simpa using (Expr.plain_iff_parts rfl rfl rfl).mp plain

theorem Expr.Plain.list {items : List Expr} {context : Context} (plain : (Expr.list items context).Plain) :
    ∀ item ∈ items, item.Plain := by
  cases context with
  | store => cases plain.unmarked
  | load | delete => simpa using (Expr.plain_iff_parts rfl rfl rfl).mp plain

theorem Expr.Plain.tuple {items : List Expr} {context : Context} (plain : (Expr.tuple items context).Plain) :
    ∀ item ∈ items, item.Plain := by
  cases context with
  | store => cases plain.unmarked
  | load | delete => simpa using (Expr.plain_iff_parts rfl rfl rfl).mp plain

theorem Expr.bindable_name (id : String) : (Expr.name id .store).Bindable :=
  ⟨rfl, tidy_of_plain rfl tidyParts_nil⟩

theorem Expr.Plain.attribute_bindable {value : Expr} {attr : String} {context : Context}
    (plain : (Expr.attribute value attr context).Plain) : (Expr.attribute value attr .store).Bindable :=
  ⟨rfl, tidy_of_plain rfl (tidy_node.mp plain.tidy)⟩

theorem Expr.Plain.subscript_bindable {value index : Expr} {context : Context}
    (plain : (Expr.subscript value index context).Plain) : (Expr.subscript value index .store).Bindable :=
  ⟨rfl, tidy_of_plain rfl (tidy_node.mp plain.tidy)⟩

mutual

/-- A plain expression that is taken for a target is marked for binding, part by part. -/
theorem Expr.Plain.asTarget : ∀ {expr target : Expr}, expr.Plain → expr.asTarget? = some target →
    target.Bindable
  | .name id _, _, _, found => by
      cases found
      exact Expr.bindable_name id
  | .attribute _ _ _, _, plain, found => by
      cases found
      exact plain.attribute_bindable
  | .subscript _ _ _, _, plain, found => by
      cases found
      exact plain.subscript_bindable
  | .starred value _, _, plain, found => by
      obtain ⟨inner, bound, rfl⟩ := Option.map_eq_some_iff.mp found
      exact ⟨rfl, tidy_node.mpr (tidyParts_target (plain.starred.asTarget bound) tidyParts_nil)⟩
  | .list items _, _, plain, found => by
      obtain ⟨targets, bound, rfl⟩ := Option.map_eq_some_iff.mp found
      exact ⟨rfl, tidy_node.mpr (tidyParts_targets.mpr (asTargets_bindable plain.list bound))⟩
  | .tuple items _, _, plain, found => by
      obtain ⟨targets, bound, rfl⟩ := Option.map_eq_some_iff.mp found
      exact ⟨rfl, tidy_node.mpr (tidyParts_targets.mpr (asTargets_bindable plain.tuple bound))⟩

theorem asTargets_bindable : ∀ {items targets : List Expr}, (∀ item ∈ items, item.Plain) →
    asTargets? items = some targets → ∀ target ∈ targets, target.Bindable
  | [], _, _, found => by
      cases found
      simp
  | item :: rest, _, plain, found => by
      rw [List.forall_mem_cons] at plain
      obtain ⟨first, bound, found⟩ := Option.bind_eq_some_iff.mp found
      obtain ⟨others, bounds, found⟩ := Option.bind_eq_some_iff.mp found
      cases found
      rw [List.forall_mem_cons]
      exact ⟨plain.1.asTarget bound, asTargets_bindable plain.2 bounds⟩

end

theorem Expr.Plain.asSingleTarget : ∀ {expr target : Expr}, expr.Plain →
    expr.asSingleTarget? = some target → target.Bindable
  | .name id _, _, _, found => by
      cases found
      exact Expr.bindable_name id
  | .attribute _ _ _, _, plain, found => by
      cases found
      exact plain.attribute_bindable
  | .subscript _ _ _, _, plain, found => by
      cases found
      exact plain.subscript_bindable

mutual

theorem Expr.Plain.asDeleted : ∀ {expr deleted : Expr}, expr.Plain → expr.asDeleted? = some deleted →
    deleted.Plain
  | .name _ _, _, _, found => by
      cases found
      exact (Expr.plain_iff_parts rfl rfl rfl).mpr tidyParts_nil
  | .attribute _ _ _, _, plain, found => by
      cases found
      exact (Expr.plain_iff_parts rfl rfl rfl).mpr (tidy_node.mp plain.tidy)
  | .subscript _ _ _, _, plain, found => by
      cases found
      exact (Expr.plain_iff_parts rfl rfl rfl).mpr (tidy_node.mp plain.tidy)
  | .list items _, _, plain, found => by
      obtain ⟨deleted, each, rfl⟩ := Option.map_eq_some_iff.mp found
      exact (Expr.plain_iff_parts rfl rfl rfl).mpr (tidyParts_exprs.mpr (asAllDeleted_plain plain.list each))
  | .tuple items _, _, plain, found => by
      obtain ⟨deleted, each, rfl⟩ := Option.map_eq_some_iff.mp found
      exact (Expr.plain_iff_parts rfl rfl rfl).mpr (tidyParts_exprs.mpr (asAllDeleted_plain plain.tuple each))

theorem asAllDeleted_plain : ∀ {items deleted : List Expr}, (∀ item ∈ items, item.Plain) →
    asAllDeleted? items = some deleted → ∀ item ∈ deleted, item.Plain
  | [], _, _, found => by
      cases found
      simp
  | item :: rest, _, plain, found => by
      rw [List.forall_mem_cons] at plain
      obtain ⟨first, one, found⟩ := Option.bind_eq_some_iff.mp found
      obtain ⟨others, each, found⟩ := Option.bind_eq_some_iff.mp found
      cases found
      rw [List.forall_mem_cons]
      exact ⟨plain.1.asDeleted one, asAllDeleted_plain plain.2 each⟩

end

end Refactory.Source
