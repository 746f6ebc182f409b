import Refactory.Text.Search
import Refactory.Campaign.World

/-! The list of models that can generate text. -/

set_option autoImplicit false

namespace Refactory.Campaign

/-- The methods that a model supports, as a list of names or as one text. -/
inductive Methods where
  | names (names : List String)
  | text (text : String)
  deriving DecidableEq, Repr

def Methods.support (methods : Methods) (name : String) : Bool :=
  match methods with
  | .names known => known.contains name
  | .text known => Text.contains known name

inductive Listed where
  | model (name : String) (methods : Methods)
  | failed (message : String)
  deriving DecidableEq, Repr

def printModels : List Listed → Action Unit
  | [] => return
  | .model name methods :: rest => do
      if methods.support "generateContent" then say ("- " ++ name)
      printModels rest
  | .failed message :: _ => say ("Error: " ++ message)

def listModels (key : Option String) (models : List Listed) : Action Unit := do
  record (.configured key)
  say "Checking available models..."
  printModels models

end Refactory.Campaign
