/-! Line ends. -/

set_option autoImplicit false

namespace Refactory.Text

/-- One character, after the one before it: a return becomes a line feed, and a line feed right
after a return belongs to it. -/
def unifyLineEnd : Char × Char → Option Char
  | (before, c) =>
      if c = '\r' then some '\n'
      else if c = '\n' ∧ before = '\r' then none
      else some c

def unifyLineEnds (chars : List Char) : List Char :=
  (('\n' :: chars).zip chars).filterMap unifyLineEnd

end Refactory.Text
