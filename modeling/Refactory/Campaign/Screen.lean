/-! The parts of the user interface, and what can be shown in them. -/

set_option autoImplicit false

namespace Refactory.Campaign

inductive Area where
  | page
  | sidebar
  | column (number : Nat)
  | status
  | progress
  | placeholder
  | spinner
  | expander
  deriving DecidableEq, Repr

inductive Widget where
  | pageSetup
  | title
  | header
  | subheader
  | caption
  | paragraph
  | markdown
  | code
  | document
  | plainText
  | information
  | success
  | warning
  | error
  | selection
  | modeSwitch
  | button
  | columns
  | expander
  | spinner
  | status
  | statusUpdate
  | progress
  | placeholder
  | divider
  | balloons
  deriving DecidableEq, Repr

inductive Setting where
  | pageTitle (text : String)
  | layout (name : String)
  | icon (text : String)
  | language (name : String)
  | markupAllowed
  | expanded
  | label (text : String)
  | state (name : String)
  deriving DecidableEq, Repr

end Refactory.Campaign
