import DidYouMean.Name.Normal
import DidYouMean.Text.Digit

/-!
# The words of a name

A name is cut at separators and digits, which belong to no word, and before each capital letter
of ASCII.

## Main definitions

- `pieces`: the cut name; pieces between two cuts may be empty
- `tokens`: the words in lower case
- `distinctTokens`: the same without repeats
-/

namespace DidYouMean.Name

/-- Whether the character belongs to no word. -/
def isDivider (c : Char) : Bool :=
  isSeparator c || Text.isDecimal c

/-- Whether a new word begins with the character. -/
def isCapital (c : Char) : Bool :=
  'A' ≤ c && c ≤ 'Z'

/-- Puts a character in front of the first piece, or begins a piece with it. -/
def startPiece (c : Char) : List (List Char) → List (List Char)
  | piece :: more => if isCapital c then [] :: (c :: piece) :: more else (c :: piece) :: more
  | [] => [[c]]

/-- The pieces of a name, cut at every divider and before every capital letter. -/
def pieces : List Char → List (List Char)
  | [] => [[]]
  | c :: rest => if isDivider c then [] :: pieces rest else startPiece c (pieces rest)

/-- The words of a name, each in lower case. -/
def tokens (s : String) : List String :=
  ((pieces s.toList).filter fun piece => !piece.isEmpty).map fun piece =>
    String.ofList (Text.lowerChars piece)

/-- The words of a name without repeats, in order of their first occurrence. -/
def distinctTokens (s : String) : List String :=
  (tokens s).eraseDups

end DidYouMean.Name
