import Refactory.Text.Digits
import Refactory.Text.NameRuns
import Refactory.Text.Pieces

/-! Characters by their names.

A name is looked up in the runs of `nameRuns` and among the aliases, where small letters count as capital
ones. The names of ideographs and Hangul syllables are taken apart, and must be in capital letters.
-/

set_option autoImplicit false

namespace Refactory.Text

/-- The words that an entry of a run stands for; `before` are the words of the other name from here on. -/
def sharedWords (before : List String) : List String → List String
  | [] => []
  | piece :: rest =>
      -- a number in front of a word counts the words taken over
      let kept := valueOf 10 (piece.toList.takeWhile Char.isDigit)
      let word := String.ofList (piece.toList.dropWhile Char.isDigit)
      let after := before.drop kept
      -- a number at the end has no word behind it
      before.take kept ++
        if word.isEmpty then sharedWords after rest else word :: sharedWords (after.drop 1) rest

def raisedWords (words : List String) : List String :=
  let last := (words.getLastD "").toList
  let digits := (last.reverse.takeWhile Char.isDigit).reverse
  let raised := Nat.toDigits 10 (valueOf 10 digits + 1)
  let zeros := List.replicate (digits.length - raised.length) '0'
  words.dropLast ++ [String.ofList (last.take (last.length - digits.length) ++ zeros ++ raised)]

/-- The code of a name among those from `code` on; `before` are the words of the last name passed. -/
def codeInRun? (name : List String) (code : Nat) (before : List String) : List String → Option Nat
  | [] => none
  -- a code without a name
  | "" :: rest => codeInRun? name (code + 1) before rest
  | entry :: rest =>
      let words := if entry = "+" then raisedWords before else sharedWords before (pieces ' ' entry)
      if words = name then some code else codeInRun? name (code + 1) words rest

def NameRun.codeOf? (run : NameRun) (name : List String) : Option Nat :=
  let entries := (piecesOf '\n' run.names.toList).flatMap (piecesOf ',')
  codeInRun? name run.first [] (entries.map String.ofList)

def hangulSounds : List (List String) := [
  ["G", "GG", "N", "D", "DD", "R", "M", "B", "BB", "S", "SS", "", "J", "JJ", "C", "K", "T", "P", "H"],
  ["A", "AE", "YA", "YAE", "EO", "E", "YEO", "YE", "O", "WA", "WAE", "OE", "YO", "U", "WEO", "WE", "WI",
    "YU", "EU", "YI", "I"],
  ["", "G", "GG", "GS", "N", "NJ", "NH", "D", "L", "LG", "LM", "LB", "LS", "LT", "LP", "LH", "M", "B",
    "BS", "S", "SS", "NG", "J", "C", "K", "T", "P", "H"]]

def longestSound? (sounds : List String) (chars : List Char) : Option (Nat × Nat) :=
  (sounds.zipIdx.filter fun (sound, _) => sound.toList.isPrefixOf chars).foldl
    (fun best (sound, index) =>
      if best.any (sound.length ≤ ·.2) then best else some (index, sound.length)) none

/-- The number of a syllable from the sounds that are left to take; `number` stands for those taken. -/
def syllableNumber? (number : Nat) : List (List String) → List Char → Option Nat
  | [], chars => if chars.isEmpty then some number else none
  | sounds :: later, chars => do
      let (index, taken) ← longestSound? sounds chars
      syllableNumber? (number * sounds.length + index) later (chars.drop taken)

def unifiedIdeographs : List (Nat × Nat) := [(0x3400, 0x4DBF), (0x4E00, 0x9FFF), (0x20000, 0x2A6DF),
  (0x2A700, 0x2B738), (0x2B740, 0x2B81D), (0x2B820, 0x2CEA1), (0x2CEB0, 0x2EBE0), (0x30000, 0x3134A)]

def numberedNames : List (String × List (Nat × Nat)) := [
  ("CJK COMPATIBILITY IDEOGRAPH-", [(0xF900, 0xFA6D), (0xFA70, 0xFAD9), (0x2F800, 0x2FA1D)]),
  ("KHITAN SMALL SCRIPT CHARACTER-", [(0x18B00, 0x18CD5)]),
  ("NUSHU CHARACTER-", [(0x1B170, 0x1B2FB)])]

def inRanges (ranges : List (Nat × Nat)) (code : Nat) : Bool :=
  ranges.any fun (first, last) => first ≤ code && code ≤ last

def afterStart? (start : String) (chars : List Char) : Option (List Char) :=
  if start.toList.isPrefixOf chars then some (chars.drop start.length) else none

def namedCode? (digits : List Char) : Option Nat :=
  if (digits.length = 4 || digits.length = 5) && digits.all (fun c => isHex c && !c.isLower) then
    some (valueOf 16 digits)
  else none

def numberedCode? (name : List Char) : Option Nat :=
  numberedNames.findSome? fun (start, ranges) => do
    let digits ← afterStart? start name
    let code ← namedCode? digits
    -- the code is written without leading zeros
    if inRanges ranges code && digits.head? ≠ some '0' then some code else none

/-- The variation selectors have short names, in two rows. -/
def selectorCode? (name : List Char) : Option Nat := do
  let digits ← afterStart? "VS" name
  let number := valueOf 10 digits
  if Nat.toDigits 10 number ≠ digits then none
  else if 1 ≤ number && number ≤ 16 then some (0xFE00 + number - 1)
  else if 17 ≤ number && number ≤ 256 then some (0xE0100 + number - 17)
  else none

def codeOfName? (name : List Char) : Option Nat :=
  match afterStart? "HANGUL SYLLABLE " name, afterStart? "CJK UNIFIED IDEOGRAPH-" name with
  | some sounds, _ => (syllableNumber? 0 hangulSounds sounds).map (0xAC00 + ·)
  | _, some digits => (namedCode? digits).filter (inRanges unifiedIdeographs)
  | none, none =>
      let capitals := name.map Char.toUpper
      let words := pieces ' ' (String.ofList capitals)
      (nameAliases.lookup (String.ofList capitals)).orElse fun _ =>
        (selectorCode? capitals).orElse fun _ =>
          (numberedCode? capitals).orElse fun _ => nameRuns.findSome? (·.codeOf? words)

end Refactory.Text
