import DidYouMean.Evaluation.Mean
import Mathlib.Algebra.BigOperators.Group.List.Basic
import Mathlib.Algebra.Order.BigOperators.Group.List
import Mathlib.Algebra.Order.Ring.Rat
import Mathlib.Tactic.NormNum
import Mathlib.Tactic.Ring

/-!
# Means in exact arithmetic

In exact arithmetic the order in which numbers are added up does not matter: the mean is the sum
divided by the count.

## Main statements

- `pairwiseSum_rat`: the sum in strands and halves is the sum
- `mean_rat`: the mean
- `mean_map_eq_iff_of_le`: when two measures, of which one is never lower, have the same mean
-/

namespace DidYouMean.Evaluation

theorem arith_zero_rat : (@OfScientific.ofScientific Rat Arith.toOfScientific 0 true 1) = 0 := by
  change (0.0 : Rat) = 0
  norm_num

theorem addAll_rat (sum : Rat) (xs : List Rat) : addAll sum xs = sum + xs.sum := by
  induction xs generalizing sum with
  | nil => simp [addAll]
  | cons x xs ih =>
    have hstep : addAll sum (x :: xs) = addAll (sum + x) xs := rfl
    rw [hstep, ih, List.sum_cons, add_assoc]

/-- Adding rows to the strands loses nothing and keeps their number. -/
theorem addRows_rat (sums xs : List Rat) (hlength : sums.length = strands) :
    (addRows sums xs).1.length = strands ∧
      (addRows sums xs).1.sum + (addRows sums xs).2.sum = sums.sum + xs.sum := by
  fun_induction addRows sums xs with
  | case1 sums xs hshort => exact ⟨hlength, rfl⟩
  | case2 sums xs hlong ih =>
    have hrow : (xs.take strands).length = strands := by
      rw [List.length_take]
      omega
    have hsums := List.sum_add_sum_eq_sum_zipWith_of_length_eq sums (xs.take strands)
      (hlength.trans hrow.symm)
    obtain ⟨hkept, hsum⟩ := ih (by rw [List.length_zipWith, hlength, hrow, Nat.min_self])
    refine ⟨hkept, hsum.trans ?_⟩
    change (List.zipWith (· + ·) sums (xs.take strands)).sum + _ = _
    rw [← hsums, add_assoc, List.sum_take_add_sum_drop]

theorem joinStrands_rat (sums : List Rat) : joinStrands sums = sums.sum := by
  rw [joinStrands.eq_def]
  split
  · simp only [List.sum_cons, List.sum_nil]
    ring
  · rw [addAll_rat, arith_zero_rat, zero_add]

theorem strandSum_rat (xs : List Rat) : strandSum xs = xs.sum := by
  rw [strandSum]
  split
  · rw [addAll_rat, arith_zero_rat, zero_add]
  · next hlong =>
    have hrow : (xs.take strands).length = strands := by
      rw [List.length_take]
      omega
    obtain ⟨-, hsum⟩ := addRows_rat (xs.take strands) (xs.drop strands) hrow
    dsimp only
    rw [addAll_rat, joinStrands_rat, hsum, List.sum_take_add_sum_drop]

/-- Sums in strands and halves are sums. -/
theorem pairwiseSum_rat (xs : List Rat) : pairwiseSum xs = xs.sum := by
  fun_induction pairwiseSum xs with
  | case1 xs hshort => exact strandSum_rat xs
  | case2 xs hlong ihfront ihback =>
    rw [ihfront, ihback, List.sum_take_add_sum_drop]

theorem mean_rat (xs : List Rat) : mean xs = xs.sum / xs.length := by
  rw [mean, pairwiseSum_rat]
  rfl

/-- Measures of which one is never lower have the same mean only if they agree on every entry. -/
theorem mean_map_eq_iff_of_le {β : Type} {xs : List β} {f g : β → Rat} (hne : xs ≠ [])
    (hle : ∀ x ∈ xs, f x ≤ g x) :
    mean (xs.map f) = mean (xs.map g) ↔ ∀ x ∈ xs, f x = g x := by
  constructor
  · intro hmean x hx
    by_contra hfg
    have hsum : (xs.map f).sum < (xs.map g).sum :=
      List.sum_lt_sum f g hle ⟨x, hx, lt_of_le_of_ne (hle x hx) hfg⟩
    have hlength : (xs.length : Rat) ≠ 0 := by
      simpa using hne
    rw [mean_rat, mean_rat, List.length_map, List.length_map, div_left_inj' hlength] at hmean
    exact hsum.ne hmean
  · intro hsame
    rw [List.map_congr_left hsame]

end DidYouMean.Evaluation
