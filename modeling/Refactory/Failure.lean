import Refactory.Json.Reader
import Refactory.Value.Fault
import Refactory.Workspace.Fault

/-! Everything that can end an activity early. -/

set_option autoImplicit false

namespace Refactory

inductive Failure where
  | file (fault : Workspace.Fault)
  | value (fault : ValueFault)
  | document (fault : Json.Fault)
  /-- Saving the memory fails, as the writer is given no file to write to. -/
  | unsavedMemory
  /-- A collaborator failed with a message of its own. -/
  | reported (message : String)

def Failure.message : Failure → String
  | .file fault => fault.message
  | .value fault => fault.message
  | .document fault => fault.message
  | .unsavedMemory => "dump() missing 1 required positional argument: 'fp'"
  | .reported message => message

end Refactory
