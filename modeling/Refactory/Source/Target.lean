import Refactory.Source.Tree

/-! Expressions as targets of binding and deletion, and the kinds of what cannot be one. -/

set_option autoImplicit false

namespace Refactory.Source

mutual

def Expr.asTarget? : Expr → Option Expr
  | .name id _ => some (.name id .store)
  | .attribute value attr _ => some (.attribute value attr .store)
  | .subscript value index _ => some (.subscript value index .store)
  | .starred value _ => (value.asTarget?).map (.starred · .store)
  | .list items _ => (asTargets? items).map (.list · .store)
  | .tuple items _ => (asTargets? items).map (.tuple · .store)
  | _ => none

def asTargets? : List Expr → Option (List Expr)
  | [] => some []
  | item :: rest => do
      let item ← item.asTarget?
      let rest ← asTargets? rest
      return item :: rest

end

mutual

def Expr.asDeleted? : Expr → Option Expr
  | .name id _ => some (.name id .delete)
  | .attribute value attr _ => some (.attribute value attr .delete)
  | .subscript value index _ => some (.subscript value index .delete)
  | .list items _ => (asAllDeleted? items).map (.list · .delete)
  | .tuple items _ => (asAllDeleted? items).map (.tuple · .delete)
  | _ => none

def asAllDeleted? : List Expr → Option (List Expr)
  | [] => some []
  | item :: rest => do
      let item ← item.asDeleted?
      let rest ← asAllDeleted? rest
      return item :: rest

end

inductive TargetUse where
  | assigning
  | looping
  | deleting
  deriving DecidableEq, Repr

def TargetUse.fault (use : TargetUse) (what : ExprKind) : Fault :=
  match use with
  | .assigning | .looping => .notAssignable what
  | .deleting => .notDeletable what

mutual

/-- The first part of an expression that keeps it from being a target. -/
def Expr.invalidTarget? (use : TargetUse) : Expr → Option Expr
  | .name _ _ => none
  | .attribute _ _ _ => none
  | .subscript _ _ _ => none
  | .starred value context =>
      if use = .deleting then some (.starred value context) else value.invalidTarget? use
  | .list items _ => firstInvalidTarget? use items
  | .tuple items _ => firstInvalidTarget? use items
  | .compare left ops others =>
      -- the target of a loop and the word after it look like a comparison
      if use = .looping then
        if ops.head? = some .isIn then left.invalidTarget? use else none
      else some (.compare left ops others)
  | value => some value

def firstInvalidTarget? (use : TargetUse) : List Expr → Option Expr
  | [] => none
  | item :: rest => (item.invalidTarget? use).or (firstInvalidTarget? use rest)

end

def Expr.asSingleTarget? : Expr → Option Expr
  | .name id _ => some (.name id .store)
  | .attribute value attr _ => some (.attribute value attr .store)
  | .subscript value index _ => some (.subscript value index .store)
  | _ => none

def Expr.kind : Expr → ExprKind
  | .constant .none => .noneConstant
  | .constant (.bool true) => .trueConstant
  | .constant (.bool false) => .falseConstant
  | .constant .ellipsis => .ellipsis
  | .constant _ => .literal
  | .name _ _ => .name
  | .attribute _ _ _ => .attribute
  | .subscript _ _ _ => .subscript
  | .starred _ _ => .starred
  | .list _ _ => .list
  | .tuple _ _ => .tuple
  | .slice _ _ _ => .slice
  | .boolean _ _ => .expression
  | .unary _ _ => .expression
  | .binary _ _ _ => .expression
  | .compare _ _ _ => .comparison
  | .conditional _ _ _ => .conditional
  | .lambda _ _ => .lambda
  | .call _ _ _ => .call
  | .binding _ _ => .named
  | .dict _ => .dict
  | .set _ => .set
  | .listComp _ _ => .listComp
  | .setComp _ _ => .setComp
  | .dictComp _ _ _ => .dictComp
  | .generator _ _ => .generator
  | .await _ => .await
  | .yield _ => .yield
  | .yieldFrom _ => .yield
  | .formatted _ => .formatted
  | .field _ _ _ => .formatted

end Refactory.Source
