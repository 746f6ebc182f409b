import Refactory.Text.Quoted
import Refactory.Text.Utf8

/-! What can go wrong with files, and how it is worded. -/

set_option autoImplicit false

namespace Refactory.Workspace

inductive Cause where
  | missing
  | occupied
  | notFolder
  | isFolder
  | nameTooLong
  | tooManyLinks
  deriving DecidableEq, Repr

def Cause.number : Cause → Nat
  | .missing => 2
  | .occupied => 17
  | .notFolder => 20
  | .isFolder => 21
  | .nameTooLong => 36
  | .tooManyLinks => 40

def Cause.text : Cause → String
  | .missing => "No such file or directory"
  | .occupied => "File exists"
  | .notFolder => "Not a directory"
  | .isFolder => "Is a directory"
  | .nameTooLong => "File name too long"
  | .tooManyLinks => "Too many levels of symbolic links"

inductive Fault where
  | system (cause : Cause) (path : String)
  | nullByte
  | encoding (fault : Text.Utf8.Fault)
  | linkedFolder
  deriving DecidableEq, Repr

def Fault.message : Fault → String
  | .system cause path =>
      "[Errno " ++ toString cause.number ++ "] " ++ cause.text ++ ": " ++ Text.quoted path
  | .nullByte => "embedded null byte"
  | .encoding fault => fault.message
  | .linkedFolder => "Cannot call rmtree on a symbolic link"

end Refactory.Workspace
