/-!
# Arithmetic for scores

Scores are computed by the same formulas in any arithmetic that has the four operations, decimal
constants and comparisons.  Doubles give the scores that are reported; rational numbers give the
exact values of the formulas.
-/

namespace DidYouMean

/-- An arithmetic in which scores can be computed. -/
class Arith (α : Type) extends Add α, Sub α, Mul α, Div α, OfScientific α, LT α, LE α where
  /-- A count as a number. -/
  ofCount : Nat → α
  /-- Comparisons are decided. -/
  decidableLT : DecidableLT α
  decidableLE : DecidableLE α

attribute [reducible, instance] Arith.decidableLT Arith.decidableLE

instance : Arith Float where
  ofCount := Float.ofNat
  decidableLT := inferInstance
  decidableLE := inferInstance

instance : Arith Rat where
  ofCount n := n
  decidableLT := inferInstance
  decidableLE := inferInstance

/-- The quotient of two counts. -/
def ratio {α : Type} [Arith α] (a b : Nat) : α :=
  Arith.ofCount a / Arith.ofCount b

end DidYouMean
