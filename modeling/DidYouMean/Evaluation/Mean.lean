import DidYouMean.Arith

/-!
# Means

The mean of some numbers, added up in an order that keeps rounding errors small: up to seven from
left to right, up to a block of 128 in eight strands, and more than that in two halves.

## Main definitions

- `strandSum`, `pairwiseSum`: the sum of a block, and of any list
- `mean`: the mean

## Design notes

In exact arithmetic the order does not matter.
-/

namespace DidYouMean.Evaluation

variable {α : Type} [Arith α]

/-- Adds numbers to a sum from left to right. -/
def addAll (sum : α) (xs : List α) : α :=
  xs.foldl (· + ·) sum

/-- How many strands a block is added up in. -/
def strands : Nat := 8

/-- Adds each full row of a block to the strands; what is left is no full row. -/
def addRows (sums xs : List α) : List α × List α :=
  if xs.length < strands then (sums, xs)
  else addRows (List.zipWith (· + ·) sums (xs.take strands)) (xs.drop strands)
termination_by xs.length
decreasing_by
  simp only [strands] at *
  simp
  omega

/-- The sum of the strands, neighbours first. -/
def joinStrands : List α → α
  | [a, b, c, d, e, f, g, h] => ((a + b) + (c + d)) + ((e + f) + (g + h))
  | sums => addAll 0.0 sums

def strandSum (xs : List α) : α :=
  if xs.length < strands then addAll 0.0 xs
  else
    let (sums, rest) := addRows (xs.take strands) (xs.drop strands)
    addAll (joinStrands sums) rest

/-- The greatest length of a block. -/
def blockLength : Nat := 128

/-- The number of entries in the first half: a multiple of the number of strands. -/
def halfLength (n : Nat) : Nat :=
  n / 2 - n / 2 % strands

def pairwiseSum (xs : List α) : α :=
  if xs.length ≤ blockLength then strandSum xs
  else
    pairwiseSum (xs.take (halfLength xs.length)) + pairwiseSum (xs.drop (halfLength xs.length))
termination_by xs.length
decreasing_by
  · simp only [blockLength, halfLength, strands, List.length_take] at *
    omega
  · simp only [blockLength, halfLength, strands, List.length_drop] at *
    omega

def mean (xs : List α) : α :=
  pairwiseSum xs / Arith.ofCount xs.length

end DidYouMean.Evaluation
