import DidYouMean.Proofs.Evaluation.Cutoffs
import DidYouMean.Proofs.Score.DoubleQuotients
import Mathlib.Algebra.BigOperators.Ring.List

/-!
# Recall and reciprocal rank

Both measures of a query look at the same thing.  Some gold name is recalled among the first
predictions if and only if the first hit is one of them, and then the reciprocal rank is at least that
of the last of them.  So a recall is never above the reciprocal rank times its cutoff, and what holds
of every query holds of the means.

## Main definitions

- `hits`: how many gold names are predicted

## Main statements

- `hits_take_pos_iff`: gold names are recalled if and only if the first hit is
- `recallAt_rat_le_mul`: the recall of a query against its reciprocal rank
- `exact_evaluate_bounds`: the same for the means, and what else bounds them

## Design notes

The measures of one query are quotients of counts.  As doubles they are rounded, which moves none of
them across zero and, for lists that are not too long, no two reciprocals together.
-/

namespace DidYouMean.Evaluation

section Hits

variable {gold predicted : List String} {k k' : ℕ}

/-- How many gold names are among the predictions. -/
def hits (gold predicted : List String) : ℕ :=
  gold.countP (predicted.contains ·)

theorem hits_le_length (gold predicted : List String) : hits gold predicted ≤ gold.length :=
  List.countP_le_length

theorem hits_take_le (hk : k ≤ k') (gold predicted : List String) :
    hits gold (predicted.take k) ≤ hits gold (predicted.take k') := by
  apply List.countP_mono_left
  intro name _ hname
  have hmem : name ∈ predicted.take k := by simpa using hname
  simpa using (List.take_sublist_take_left hk).mem hmem

/-- A gold name is among the first predictions if and only if the first hit is. -/
theorem hits_take_pos_iff (gold predicted : List String) (k : ℕ) :
    0 < hits gold (predicted.take k) ↔ ∃ i < k, firstHit? gold predicted = some i := by
  have hboth : 0 < hits gold (predicted.take k) ↔ (firstHit? gold (predicted.take k)).isSome := by
    rw [hits, List.countP_pos_iff, firstHit?, List.findIdx?_isSome, List.any_eq_true]
    simp only [List.contains_iff_mem]
    exact exists_congr fun name => And.comm
  rw [hboth, firstHit?_take, Option.isSome_iff_exists]
  simp only [Option.filter_eq_some_iff, decide_eq_true_eq]
  exact exists_congr fun i => And.comm

theorem recallAt_eq {α : Type} [Arith α] (gold predicted : List String) (k : ℕ) :
    (recallAt gold predicted (some (k : ℤ)) : α) =
      if gold.isEmpty then 0.0 else ratio (hits gold (predicted.take k)) gold.length := by
  rw [recallAt, hits, Limit.take_natCast, List.countP_eq_length_filter]

end Hits

section Exact

variable {gold predicted : List String} {k k' : ℕ}

theorem recallAt_rat (gold predicted : List String) (k : ℕ) :
    (recallAt gold predicted (some (k : ℤ)) : ℚ) =
      hits gold (predicted.take k) / gold.length := by
  rw [recallAt_eq]
  cases gold with
  | nil => exact arith_zero_rat.trans (by simp)
  | cons name gold => rfl

theorem recallAt_rat_bounds (gold predicted : List String) (k : ℕ) :
    (0 : ℚ) ≤ recallAt gold predicted (some (k : ℤ)) ∧
      (recallAt gold predicted (some (k : ℤ)) : ℚ) ≤ 1 := by
  rw [recallAt_rat]
  exact ⟨by positivity, div_le_one_of_le₀ (by exact_mod_cast hits_le_length _ _) (by positivity)⟩

/-- More predictions never lower the recall. -/
theorem recallAt_rat_mono (hk : k ≤ k') (gold predicted : List String) :
    (recallAt gold predicted (some (k : ℤ)) : ℚ) ≤ recallAt gold predicted (some (k' : ℤ)) := by
  rw [recallAt_rat, recallAt_rat]
  have hhits : (hits gold (predicted.take k) : ℚ) ≤ hits gold (predicted.take k') := by
    exact_mod_cast hits_take_le hk gold predicted
  gcongr

theorem recallAt_rat_pos_iff (gold predicted : List String) (k : ℕ) :
    (0 : ℚ) < recallAt gold predicted (some (k : ℤ)) ↔
      ∃ i < k, firstHit? gold predicted = some i := by
  rw [← hits_take_pos_iff, recallAt_rat]
  constructor
  · intro hpos
    by_contra hnone
    rw [Nat.eq_zero_of_not_pos hnone, Nat.cast_zero, zero_div] at hpos
    exact lt_irrefl 0 hpos
  · intro hpos
    have hlength := hpos.trans_le (hits_le_length gold (predicted.take k))
    positivity

theorem reciprocalRank_rat_bounds (gold predicted : List String) :
    (0 : ℚ) ≤ reciprocalRank gold predicted ∧ (reciprocalRank gold predicted : ℚ) ≤ 1 := by
  rw [exact_reciprocalRank]
  cases firstHit? gold predicted with
  | none => exact ⟨le_rfl, zero_le_one⟩
  | some i =>
    have hplace : (1 : ℚ) ≤ (i : ℚ) + 1 := by simp
    exact ⟨Nat.one_div_pos_of_nat.le, div_le_one_of_le₀ hplace (by positivity)⟩

/-- The reciprocal rank is as high as that of a place if and only if the first hit is there or before. -/
theorem one_div_le_reciprocalRank_iff (hk : 0 < k) (gold predicted : List String) :
    1 / (k : ℚ) ≤ reciprocalRank gold predicted ↔ ∃ i < k, firstHit? gold predicted = some i := by
  rw [exact_reciprocalRank]
  have hcast : (0 : ℚ) < k := by exact_mod_cast hk
  cases firstHit? gold predicted with
  | none =>
    have hpos : (0 : ℚ) < 1 / k := one_div_pos.mpr hcast
    exact iff_of_false hpos.not_ge (by simp)
  | some i =>
    have hplace : (0 : ℚ) < (i : ℚ) + 1 := by positivity
    dsimp only
    rw [one_div_le_one_div hcast hplace]
    simp only [Option.some.injEq, exists_eq_right']
    exact_mod_cast Nat.succ_le_iff

/-- A recall that is not zero has its first hit among as many predictions, and so a reciprocal rank to
match. -/
theorem recallAt_rat_le_mul (hk : 0 < k) (gold predicted : List String) :
    (recallAt gold predicted (some (k : ℤ)) : ℚ) ≤ k * reciprocalRank gold predicted := by
  have hcast : (0 : ℚ) < k := by exact_mod_cast hk
  by_cases hhit : ∃ i < k, firstHit? gold predicted = some i
  · calc (recallAt gold predicted (some (k : ℤ)) : ℚ)
      _ ≤ 1 := (recallAt_rat_bounds gold predicted k).2
      _ = k * (1 / k) := (mul_one_div_cancel hcast.ne').symm
      _ ≤ k * reciprocalRank gold predicted := by
        have hrank := (one_div_le_reciprocalRank_iff hk gold predicted).mpr hhit
        gcongr
  · rw [← recallAt_rat_pos_iff, not_lt] at hhit
    exact hhit.trans (mul_nonneg hcast.le (reciprocalRank_rat_bounds gold predicted).1)

end Exact

section Means

variable {found : List (List String × List String)} {f g : List String → List String → ℚ}

theorem meanOf_rat (found : List (List String × List String))
    (f : List String → List String → ℚ) :
    meanOf found f = (found.map fun e => f e.1 e.2).sum / found.length := by
  rw [meanOf]
  cases found with
  | nil => exact arith_zero_rat.trans (by simp)
  | cons e found =>
    rw [List.isEmpty_cons, if_neg Bool.false_ne_true, mean_rat, List.length_map]

theorem meanOf_le_meanOf (h : ∀ gold predicted, f gold predicted ≤ g gold predicted) :
    meanOf found f ≤ meanOf found g := by
  rw [meanOf_rat, meanOf_rat]
  have hsum := List.sum_le_sum (l := found) fun e _ => h e.1 e.2
  gcongr

theorem meanOf_nonneg (h : ∀ gold predicted, 0 ≤ f gold predicted) : 0 ≤ meanOf found f := by
  rw [meanOf_rat]
  have hsum : 0 ≤ (found.map fun e => f e.1 e.2).sum := by
    apply List.sum_nonneg
    rw [List.forall_mem_map]
    exact fun e _ => h e.1 e.2
  positivity

theorem meanOf_le_one (h : ∀ gold predicted, f gold predicted ≤ 1) : meanOf found f ≤ 1 := by
  rw [meanOf_rat]
  refine div_le_one_of_le₀ ?_ (Nat.cast_nonneg _)
  calc (found.map fun e => f e.1 e.2).sum
    _ ≤ (found.map fun _ => (1 : ℚ)).sum := List.sum_le_sum fun e _ => h e.1 e.2
    _ = found.length := by simp

theorem meanOf_mul_left (c : ℚ) (found : List (List String × List String))
    (f : List String → List String → ℚ) :
    meanOf found (fun gold predicted => c * f gold predicted) = c * meanOf found f := by
  rw [meanOf_rat, meanOf_rat, List.sum_map_mul_left, mul_div_assoc]

/-- The recalls of an evaluation are those of its cutoffs. -/
theorem mem_recalls_iff {α : Type} [Arith α] {predictions : Predictions} {gold : Gold}
    {cutoffs : List ℤ} {k : ℤ} {share : α} :
    (k, share) ∈ (evaluate predictions gold cutoffs : Scores α).recalls ↔
      k ∈ cutoffs ∧ share = meanOf (pairs predictions gold) fun gold predicted =>
        recallAt gold predicted (some k) := by
  simp only [evaluate, List.mem_map, Prod.mk.injEq]
  constructor
  · rintro ⟨k, hk, rfl, rfl⟩
    exact ⟨hk, rfl⟩
  · rintro ⟨hk, rfl⟩
    exact ⟨k, hk, rfl, rfl⟩

end Means

section Doubles

variable {gold predicted : List String} {k : ℕ}

theorem pos_recallAt_double_iff (gold predicted : List String) (k : ℕ)
    (hgold : gold.length ≤ 2 ^ 50) :
    (0.0 : Float) < recallAt gold predicted (some (k : ℤ)) ↔
      ∃ i < k, firstHit? gold predicted = some i := by
  rw [← hits_take_pos_iff, recallAt_eq]
  cases gold with
  | nil => exact iff_of_false (double_lt_irrefl 0.0) (by simp [hits])
  | cons name gold =>
    rw [List.isEmpty_cons, if_neg Bool.false_ne_true]
    exact pos_div_ofNat_iff (Nat.succ_pos _) (hits_le_length _ _) (hgold.trans (by decide))

theorem one_div_le_reciprocalRank_double_iff (hk : 0 < k) (hk' : k ≤ 2 ^ 50)
    (gold : List String) (hpredicted : predicted.length ≤ 2 ^ 50) :
    1.0 / Float.ofNat k ≤ reciprocalRank gold predicted ↔
      ∃ i < k, firstHit? gold predicted = some i := by
  rw [reciprocalRank_eq]
  cases hfirst : firstHit? gold predicted with
  | none =>
    have hpos := pos_one_div_ofNat hk (hk'.trans (by decide))
    refine iff_of_false (fun hle => double_lt_irrefl 0.0 (double_lt_of_lt_of_le hpos hle)) ?_
    simp
  | some i =>
    have hplace : i < predicted.length := List.findIdx?_eq_some_iff_findIdx_eq.mp hfirst |>.1
    simp only [Option.some.injEq, exists_eq_right']
    exact one_div_ofNat_le_iff (Nat.succ_pos i) hk (by omega) hk'

end Doubles

/-- In exact arithmetic no recall is above the mean reciprocal rank times its cutoff, and neither measure
leaves the interval from zero to one.  The recall does not fall when the cutoff is raised, in whatever
run.  For one query, some gold name is recalled if and only if the reciprocal rank is that of the cutoff
at least, and this can be told from the doubles, too. -/
theorem exact_evaluate_bounds (predictions : Predictions) (gold : Gold) (cutoffs cutoffs' : List ℤ) :
    let scores : Scores ℚ := evaluate predictions gold cutoffs
    let scores' : Scores ℚ := evaluate predictions gold cutoffs'
    scores.recalls.map (·.1) = cutoffs ∧ scores.mrr ≤ 1 ∧
    (∀ e ∈ scores.recalls, 1 ≤ e.1 → 0 ≤ e.2 ∧ e.2 ≤ min 1 (e.1 * scores.mrr) ∧
      ∀ e' ∈ scores'.recalls, e.1 ≤ e'.1 → e.2 ≤ e'.2) ∧
    ∀ (gold predicted : List String) (k : ℕ), 1 ≤ k →
      ((0 : ℚ) < recallAt gold predicted (some (k : ℤ)) ↔
        1 / (k : ℚ) ≤ reciprocalRank gold predicted) ∧
      (gold.length ≤ 2 ^ 50 → predicted.length ≤ 2 ^ 50 → k ≤ 2 ^ 50 →
        ((0.0 : Float) < recallAt gold predicted (some (k : ℤ)) ↔
          1.0 / Float.ofNat k ≤ reciprocalRank gold predicted)) := by
  intro scores scores'
  refine ⟨?_, meanOf_le_one fun gold predicted => (reciprocalRank_rat_bounds gold predicted).2, ?_, ?_⟩
  · simp only [scores, evaluate, List.map_map]
    exact List.map_id' _
  · rintro ⟨k, share⟩ he (hcutoff : 1 ≤ k)
    obtain ⟨n, rfl⟩ := Int.eq_ofNat_of_zero_le (Int.le_of_lt hcutoff)
    obtain ⟨-, rfl⟩ := mem_recalls_iff.mp he
    have hn : 0 < n := by exact_mod_cast hcutoff
    refine ⟨meanOf_nonneg fun gold predicted => (recallAt_rat_bounds gold predicted n).1,
      le_min ?_ ?_, ?_⟩
    · exact meanOf_le_one fun gold predicted => (recallAt_rat_bounds gold predicted n).2
    · rw [Int.cast_natCast]
      exact (meanOf_le_meanOf (recallAt_rat_le_mul hn)).trans_eq (meanOf_mul_left _ _ _)
    · rintro ⟨k', share'⟩ he' (hle : (n : ℤ) ≤ k')
      obtain ⟨n', rfl⟩ := Int.eq_ofNat_of_zero_le ((Int.natCast_nonneg n).trans hle)
      obtain ⟨-, rfl⟩ := mem_recalls_iff.mp he'
      exact meanOf_le_meanOf (recallAt_rat_mono (by exact_mod_cast hle))
  · intro gold predicted k hk
    refine ⟨?_, fun hgold hpredicted hbound => ?_⟩
    · rw [recallAt_rat_pos_iff, one_div_le_reciprocalRank_iff hk]
    · rw [pos_recallAt_double_iff gold predicted k hgold,
        one_div_le_reciprocalRank_double_iff hk hbound gold hpredicted]

/-- Predictions for three queries, of which the last has no gold names. -/
def lenghtPredictions : Predictions :=
  [("lenght", ["Weight", "Length"]), ("widht", ["Width"]), ("colour", ["Color"])]

def lenghtGold : Gold :=
  [("lenght", ["Length", "Len"]), ("widht", ["Width"])]

/-- Only one of the two queries has its first hit at the first place, and one gold name is not predicted
at all. -/
theorem exact_evaluate_bounds_lenght :
    let scores : Scores ℚ := evaluate lenghtPredictions lenghtGold [1]
    let scores' : Scores ℚ := evaluate lenghtPredictions lenghtGold [2]
    let gold := ["Length", "Len"]
    let predicted := ["Weight", "Length"]
    ((1, 1 / 2) ∈ scores.recalls ∧ (2, 3 / 4) ∈ scores'.recalls ∧ gold.length ≤ 2 ^ 50 ∧
        predicted.length ≤ 2 ^ 50) ∧
      ((0 : ℚ) ≤ 1 / 2 ∧ (1 / 2 : ℚ) ≤ min 1 ((1 : ℤ) * scores.mrr) ∧ (1 / 2 : ℚ) ≤ 3 / 4) ∧
      ((0.0 : Float) < recallAt gold predicted (some (2 : ℕ)) ↔
        1.0 / Float.ofNat 2 ≤ reciprocalRank gold predicted) := by
  intro scores scores' gold predicted
  obtain ⟨-, -, hrecalls, hquery⟩ :=
    exact_evaluate_bounds lenghtPredictions lenghtGold [1] [2]
  have hfirst : (1, 1 / 2) ∈ scores.recalls := by decide +kernel
  have hsecond : (2, 3 / 4) ∈ scores'.recalls := by decide +kernel
  have hgold : gold.length ≤ 2 ^ 50 := by decide
  have hpredicted : predicted.length ≤ 2 ^ 50 := by decide
  obtain ⟨hnonneg, hle, hmono⟩ := hrecalls _ hfirst (by decide)
  exact ⟨⟨hfirst, hsecond, hgold, hpredicted⟩, ⟨hnonneg, hle, hmono _ hsecond (by decide)⟩,
    (hquery gold predicted 2 (by decide)).2 hgold hpredicted (by decide)⟩

end DidYouMean.Evaluation
