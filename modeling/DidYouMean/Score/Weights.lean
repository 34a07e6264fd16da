import DidYouMean.Arith

/-!
# Weights and thresholds

The numbers in the score formulas and the thresholds that scores are compared with.
-/

namespace DidYouMean.Score

variable {α : Type} [Arith α]

/-- Added if the normal forms are equal. -/
def exactBonus : α := 0.3

/-- Added if one normal form occurs in the other. -/
def containmentBonus : α := 0.2

/-- Added for each pair of equal words. -/
def tokenExactBonus : α := 0.2

/-- Added for each pair of different words of which one begins with the other. -/
def tokenPartialBonus : α := 0.1

/-- Added once if enough pairs of words match. -/
def multiTokenBonus : α := 0.2

/-- How many pairs of words are enough. -/
def multiTokenPairs : Nat := 2

/-- Taken off for each character that the candidate is longer than the query. -/
def lengthPenalty : α := 0.01

/-- The least score of a suggestion. -/
def leastScore : α := 0.3

/-- The least score of a namespace compared as a whole. -/
def leastNamespaceScore : α := 0.7

/-- The least score of a segment that counts as matching. -/
def leastSegmentScore : α := 0.6

/-- The least share of segments that have to match. -/
def leastSegmentShare : α := 0.5

end DidYouMean.Score
