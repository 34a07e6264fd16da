/-!
# Matching characters

Two texts are compared by matching equal characters that stand close to each other.  The left
text is scanned once; each of its characters takes the first free equal character of the right
text within its window.

## Main definitions

- `Matching`: the number of matches, and which positions of both texts take part
- `findMatches`: the matching that the scan finds
- `mismatches`: how many matched characters stand opposite a different one
-/

namespace DidYouMean.Similarity

/-- The matched positions of two texts, marked in one list for each. -/
structure Matching where
  count : Nat
  left : List Bool
  right : List Bool
  deriving Repr, DecidableEq

/-- The first position from `low` on and below `high` that holds `c` and is not marked yet.  The
texts given are what is left from position `i` on. -/
def firstFree (c : Char) (low high : Int) : Nat → List Char → List Bool → Option Nat
  | i, d :: text, marked :: marks =>
    if low ≤ i && i < high && !marked && d == c then some i
    else firstFree c low high (i + 1) text marks
  | _, _, _ => none

/-- Matches the characters of the left text from position `i` on; `marks` are the marks on the
right text so far. -/
def matchFrom (distance : Int) (right : List Char) :
    Nat → List Char → List Bool → Matching
  | _, [], marks => ⟨0, [], marks⟩
  | i, c :: text, marks =>
    match firstFree c (i - distance) (i + distance + 1) 0 right marks with
    | some j =>
      let later := matchFrom distance right (i + 1) text (marks.set j true)
      ⟨later.count + 1, true :: later.left, later.right⟩
    | none =>
      let later := matchFrom distance right (i + 1) text marks
      ⟨later.count, false :: later.left, later.right⟩

/-- Matches equal characters whose positions are at most `distance` apart. -/
def findMatches (left right : List Char) (distance : Int) : Matching :=
  matchFrom distance right 0 left (List.replicate right.length false)

/-- The next marked character, and what follows it. -/
def nextMarked : List Char → List Bool → Option (Char × List Char × List Bool)
  | c :: text, marked :: marks =>
    if marked then some (c, text, marks) else nextMarked text marks
  | _, _ => none

/-- How many marked characters of the left text differ from the marked character of the right
text in the same place of the row; `none` if the right text has too few marks. -/
def mismatches : List Char → List Bool → List Char → List Bool → Option Nat
  | c :: left, marked :: marks, right, rightMarks =>
    if marked then
      match nextMarked right rightMarks with
      | some (d, right, rightMarks) =>
        (mismatches left marks right rightMarks).map (· + if c == d then 0 else 1)
      | none => none
    else mismatches left marks right rightMarks
  | _, _, _, _ => some 0

/-- The number of transpositions: every two mismatches are one. -/
def transpositions? (left right : List Char) (m : Matching) : Option Nat :=
  (mismatches left m.left right m.right).map (· / 2)

end DidYouMean.Similarity
