/-! Texts cut at a character, and texts in order. -/

set_option autoImplicit false

namespace Refactory.Text

/-- The pieces between the occurrences of a character; there is always one more than occurrences. -/
def piecesOf (mark : Char) : List Char → List (List Char)
  | [] => [[]]
  | c :: rest =>
      if c = mark then [] :: piecesOf mark rest
      else match piecesOf mark rest with
        | piece :: pieces => (c :: piece) :: pieces
        | [] => [[c]]

def pieces (mark : Char) (text : String) : List String :=
  (piecesOf mark text.toList).map String.ofList

def sorted (texts : List String) : List String :=
  texts.mergeSort fun left right => !(right < left)

end Refactory.Text
