import DidYouMean.Text.CaseTables

/-!
# Lower and upper case

The full case mappings of Unicode, which know no language.  They work on whole texts: two
characters change their number, and the small form of a capital sigma depends on its neighbours.

## Main definitions

- `lower`, `upper`: the lower-case and the upper-case form of a text
- `endsWord`: whether a capital sigma stands at the end of a word
-/

namespace DidYouMean.Text

/-- The capital sigma, whose small form at the end of a word is a letter of its own. -/
def capitalSigma : Char := '\u03A3'

def isCaseIgnorable (c : Char) : Bool :=
  inRanges caseIgnorableRanges c.toNat

/-- Whether the character is a letter with case that stops the search for a neighbour. -/
def isCased (c : Char) : Bool :=
  inRanges casedRanges c.toNat

/-- Whether a sigma between `before`, nearest character first, and `after` ends a word: the
nearest characters that count are a letter with case on the left and none on the right. -/
def endsWord (before after : List Char) : Bool :=
  let isLetter (cs : List Char) := ((cs.dropWhile isCaseIgnorable).head?.map isCased).getD false
  isLetter before && !isLetter after

/-- The small form of a character wherever it stands. -/
def lowerChar (c : Char) : List Char :=
  if c.toNat < 0x80 then
    [if 'A' ≤ c && c ≤ 'Z' then Char.ofNat (c.toNat + 0x20) else c]
  else if c = '\u0130' then ['i', '\u0307']
  else [Char.ofNat (mapCode lowerRuns c.toNat)]

/-- Lowers the characters after `before`, which is given nearest character first. -/
def lowerFrom (before : List Char) : List Char → List Char
  | [] => []
  | c :: after =>
    (if c = capitalSigma && endsWord before after then ['\u03C2'] else lowerChar c)
      ++ lowerFrom (c :: before) after

/-- The lower-case form of a list of characters. -/
def lowerChars (cs : List Char) : List Char :=
  lowerFrom [] cs

def lower (s : String) : String :=
  String.ofList (lowerChars s.toList)

/-- The capital form of a character. -/
def upperChar (c : Char) : List Char :=
  match upperExpansions.lookup c.toNat with
  | some codes => codes.map Char.ofNat
  | none => [Char.ofNat (mapCode upperRuns c.toNat)]

def upper (s : String) : String :=
  String.ofList (s.toList.flatMap upperChar)

end DidYouMean.Text
