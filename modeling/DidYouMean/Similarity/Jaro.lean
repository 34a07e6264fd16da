import DidYouMean.Arith
import DidYouMean.Similarity.Matching

/-!
# Jaro and Jaro-Winkler similarity

The Jaro similarity weighs the matched characters of two texts against their lengths and against
the transpositions among them.  The Winkler variant moves it towards one by the leading characters
that both texts share.

## Main definitions

- `matchDistance`: how far apart matching characters may be
- `jaro`, `jaroWinkler`: the similarities
- `sharedLead`: the number of leading characters that two texts share
-/

namespace DidYouMean.Similarity

variable {α : Type} [Arith α]

/-- Matching characters are less than half the longer text apart. -/
def matchDistance (left right : List Char) : Int :=
  ((max left.length right.length) / 2 : Nat) - 1

/-- The similarity of texts of the given lengths with at least one match. -/
def matchScore (count transpositions leftLength rightLength : Nat) : α :=
  (ratio count leftLength + ratio count rightLength
    + ratio (count - transpositions) count) / 3.0

/-- The Jaro similarity of two texts: one for equal texts, zero for texts without a match. -/
def jaro (left right : List Char) : α :=
  if left = right then 1.0
  else if left.isEmpty || right.isEmpty then 0.0
  else
    let found := findMatches left right (matchDistance left right)
    if found.count = 0 then 0.0
    else
      matchScore found.count ((transpositions? left right found).getD 0) left.length right.length

/-- The number of leading characters that two texts share. -/
def sharedLead : List Char → List Char → Nat
  | a :: left, b :: right => if a = b then sharedLead left right + 1 else 0
  | _, _ => 0

/-- The number of leading characters that count for the Winkler variant. -/
def leadLimit : Nat := 4

/-- The part of the way to one that each of them is worth. -/
def leadWeight : α := 0.1

/-- The Jaro similarity, moved towards one for each shared leading character. -/
def jaroWinkler (left right : List Char) : α :=
  let base : α := jaro left right
  let lead := sharedLead (left.take leadLimit) (right.take leadLimit)
  base + Arith.ofCount lead * leadWeight * (1.0 - base)

end DidYouMean.Similarity
