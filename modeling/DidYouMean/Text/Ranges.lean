/-!
# Ranges of code points

Character classes are kept as lists of ranges, ends included.
-/

namespace DidYouMean.Text

/-- Whether one of the ranges holds the code point. -/
def inRanges (ranges : List (Nat × Nat)) (code : Nat) : Bool :=
  ranges.any fun (first, last) => first ≤ code && code ≤ last

end DidYouMean.Text
