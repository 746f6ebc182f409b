import Refactory.Campaign.World
import Refactory.Sample.Filter

/-! A run of the filter that prints what it finds. -/

set_option autoImplicit false

namespace Refactory.Sample.Filter

open Campaign

def sampleData : Value :=
  .list [.int 1, .int 6, .int 3, .int 8]

def printSample : Action Value := do
  let result ← orFault (process sampleData)
  say result.display
  return result

end Refactory.Sample.Filter
