/-! Terminal colours in texts. -/

set_option autoImplicit false

namespace Refactory.Text

/-- The length of the colour sequence at the start of a text: an escape, an opening bracket, digits and
semicolons, and a letter; zero if there is none. -/
def sequenceLength (chars : List Char) : Nat :=
  match chars with
  | '\x1b' :: '[' :: rest =>
      let parameters := rest.takeWhile fun c => c.isDigit || c = ';'
      match rest.drop parameters.length with
      | letter :: _ => if letter.isAlpha then parameters.length + 3 else 0
      | [] => 0
  | _ => 0

/-- Leaves out the sequences; `skip` characters belong to the last one. -/
def withoutSequences : Nat → List Char → List Char
  | _, [] => []
  | skip + 1, _ :: rest => withoutSequences skip rest
  | 0, c :: rest => match sequenceLength (c :: rest) with
      | 0 => c :: withoutSequences 0 rest
      | length + 1 => withoutSequences length rest

def uncoloured (text : String) : String :=
  String.ofList (withoutSequences 0 text.toList)

end Refactory.Text
