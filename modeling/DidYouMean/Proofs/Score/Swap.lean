import DidYouMean.Proofs.Similarity.Symmetry
import DidYouMean.Score.Composite
import Mathlib.Algebra.Order.Ring.Rat
import Mathlib.Data.List.Perm.Basic
import Mathlib.Tactic.Linarith
import Mathlib.Tactic.NormNum

/-!
# Composite scores from either name

Each part of a composite score but the penalty is the same whichever of the two names is the query.
In exact arithmetic, then, the two scores differ as the lengths of the names do.

## Main statements

- `perm_wordMatches_swap`: the words of two names match in the same pairs from either name
- `tokenBonus_comm_rat`: the bonus for shared words is the same from either name
- `exact_composite_swap`: the scores of a pair of names from either name
-/

namespace DidYouMean.Score

section Words

theorem wordMatch?_comm (a b : String) : wordMatch? a b = wordMatch? b a := by
  rw [wordMatch?, wordMatch?, Bool.or_comm]
  simp only [eq_comm (a := a)]

/-- The pairs of two lists can be gone through row by row or column by column. -/
theorem perm_flatMap_filterMap_swap {α β γ : Type} (f : α → β → Option γ) (xs : List α)
    (ys : List β) : (xs.flatMap fun x => ys.filterMap (f x)).Perm
      (ys.flatMap fun y => xs.filterMap fun x => f x y) := by
  induction xs with
  | nil => simp
  | cons x xs ih =>
    have hcolumn : ∀ y, (x :: xs).filterMap (fun x => f x y) =
        (f x y).toList ++ xs.filterMap fun x => f x y := by
      intro y
      cases hxy : f x y <;> simp [hxy]
    simp only [hcolumn, List.flatMap_cons, List.filterMap_eq_flatMap_toList (f x)]
    exact (ih.append_left _).trans (List.flatMap_append_perm ys _ _)

/-- The words of two names match in the same pairs from either name. -/
theorem perm_wordMatches_swap (query candidate : String) :
    (wordMatches query candidate).Perm (wordMatches candidate query) := by
  have hswap := perm_flatMap_filterMap_swap wordMatch? (Name.distinctTokens query)
    (Name.distinctTokens candidate)
  have hcolumn : ∀ c, (fun q => wordMatch? q c) = wordMatch? c :=
    fun c => funext fun q => wordMatch?_comm q c
  simp only [hcolumn] at hswap
  exact hswap

end Words

section Parts

theorem contains_comm (a b : List Char) : contains a b = contains b a := by
  rw [contains, contains, Bool.and_comm (!a.isEmpty), Bool.or_comm (occursIn a b)]

/-- In exact arithmetic the bonuses of the matches can be added up in any order. -/
theorem tokenBonus_comm_rat (query candidate : String) :
    (tokenBonus query candidate : ℚ) = tokenBonus candidate query := by
  have hperm := perm_wordMatches_swap query candidate
  have hright : RightCommutative fun (sum : ℚ) (m : WordMatch) => sum + m.bonus :=
    ⟨fun sum m m' => add_right_comm sum m.bonus m'.bonus⟩
  have hsum : (wordMatches query candidate).foldl (fun (sum : ℚ) m => sum + m.bonus) 0.0 =
      (wordMatches candidate query).foldl (fun sum m => sum + m.bonus) 0.0 := hperm.foldl_eq 0.0
  rw [tokenBonus, tokenBonus, hperm.length_eq]
  exact congrArg (fun sum : ℚ => if multiTokenPairs ≤ (wordMatches candidate query).length then
    sum + multiTokenBonus else sum) hsum

/-- What a score has but for the penalty. -/
theorem composite_rat (query candidate : String) : (composite query candidate : ℚ) =
    (breakdown query candidate : Breakdown ℚ).base + (breakdown query candidate).exact +
      (breakdown query candidate).containment + tokenBonus query candidate -
        ((candidate.length - query.length : Nat) : ℚ) * 0.01 :=
  rfl

end Parts

/-- The score of a pair of names from either name differs by the difference of their lengths only. -/
theorem exact_composite_swap (query candidate : String) :
    (composite query candidate : ℚ) + 0.01 * candidate.length =
      composite candidate query + 0.01 * query.length := by
  have hbase : (breakdown query candidate : Breakdown ℚ).base =
      (breakdown candidate query).base :=
    Similarity.jaroWinkler_comm (fun _ _ _ => add_comm _ _) _ _
  have hexact : (breakdown query candidate : Breakdown ℚ).exact =
      (breakdown candidate query).exact := by
    simp only [breakdown, eq_comm]
  have hcontainment : (breakdown query candidate : Breakdown ℚ).containment =
      (breakdown candidate query).containment := by
    simp only [breakdown, contains_comm (Name.normalize query).toList]
  -- each name is as long as the shorter one and what it is longer
  have hlengths : ((candidate.length - query.length : Nat) : ℚ) + query.length =
      ((query.length - candidate.length : Nat) : ℚ) + candidate.length := by
    norm_cast
    omega
  rw [composite_rat, composite_rat, hbase, hexact, hcontainment,
    tokenBonus_comm_rat query candidate]
  linarith

end DidYouMean.Score
