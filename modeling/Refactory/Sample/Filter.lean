import Refactory.Value.Arithmetic

/-! Doubling the large members of a collection. -/

set_option autoImplicit false

namespace Refactory.Sample.Filter

def doubleLarge : List Value → Except ValueFault (List Value)
  | [] => .ok []
  | item :: rest => do
      if ← item.compareWith .greater 5 then
        let doubled ← item.multiply (.int 2)
        return doubled :: (← doubleLarge rest)
      else doubleLarge rest

def process (data : Value) : Except ValueFault Value := do
  return .list (← doubleLarge (← data.members))

end Refactory.Sample.Filter
