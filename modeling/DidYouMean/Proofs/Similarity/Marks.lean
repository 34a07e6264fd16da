import DidYouMean.Proofs.Similarity.Greedy
import Mathlib.Data.List.Nodup
import Mathlib.Data.Prod.Basic

/-!
# Marks and counts

The scan counts the pairs that it matches and marks their positions on both texts.

## Main statements

- `matchFrom_count`, `matchFrom_left_iff`, `matchFrom_right_iff`: count and marks from the pairs
- `count_true_left`, `count_true_right`: as many positions are marked on each text as are counted
- `findMatches_swap`: scanning from the other text swaps the marks
-/

namespace DidYouMean.Similarity

/-- The matching with the parts of the texts exchanged. -/
def Matching.swap (m : Matching) : Matching :=
  ⟨m.count, m.right, m.left⟩

section Scan

variable {distance : Int} {right text : List Char} {c : Char} {i j : Nat} {marks : List Bool}

theorem matchFrom_cons_some
    (hfree : firstFree c (i - distance) (i + distance + 1) 0 right marks = some j) :
    matchFrom distance right i (c :: text) marks =
      let later := matchFrom distance right (i + 1) text (marks.set j true)
      ⟨later.count + 1, true :: later.left, later.right⟩ := by
  simp only [matchFrom, hfree]

theorem matchFrom_cons_none
    (hfree : firstFree c (i - distance) (i + distance + 1) 0 right marks = none) :
    matchFrom distance right i (c :: text) marks =
      let later := matchFrom distance right (i + 1) text marks
      ⟨later.count, false :: later.left, later.right⟩ := by
  simp only [matchFrom, hfree]

/-- The position found is not marked yet. -/
theorem getElem?_marks_of_firstFree
    (hfree : firstFree c (i - distance) (i + distance + 1) 0 right marks = some j) :
    marks[j]? = some false :=
  ((firstFree_spec _ _ _ _ _ _).1 j hfree).1.unmarked

theorem matchFrom_count (distance : Int) (right : List Char) (i : Nat) (text : List Char)
    (marks : List Bool) : (matchFrom distance right i text marks).count =
      (pairsFrom distance right i text marks).length := by
  induction text generalizing i marks with
  | nil => rfl
  | cons c text ih =>
    rw [pairsFrom]
    cases hfree : firstFree c (i - distance) (i + distance + 1) 0 right marks with
    | none => rw [matchFrom_cons_none hfree]; exact ih (i + 1) marks
    | some j => rw [matchFrom_cons_some hfree]; exact congrArg (· + 1) (ih (i + 1) _)

theorem length_left_matchFrom (distance : Int) (right : List Char) (i : Nat) (text : List Char)
    (marks : List Bool) : (matchFrom distance right i text marks).left.length = text.length := by
  induction text generalizing i marks with
  | nil => rfl
  | cons c text ih =>
    cases hfree : firstFree c (i - distance) (i + distance + 1) 0 right marks with
    | none => rw [matchFrom_cons_none hfree]; exact congrArg (· + 1) (ih (i + 1) marks)
    | some j => rw [matchFrom_cons_some hfree]; exact congrArg (· + 1) (ih (i + 1) _)

theorem length_right_matchFrom (distance : Int) (right : List Char) (i : Nat) (text : List Char)
    (marks : List Bool) : (matchFrom distance right i text marks).right.length = marks.length := by
  induction text generalizing i marks with
  | nil => rfl
  | cons c text ih =>
    cases hfree : firstFree c (i - distance) (i + distance + 1) 0 right marks with
    | none => rw [matchFrom_cons_none hfree]; exact ih (i + 1) marks
    | some j =>
      rw [matchFrom_cons_some hfree]
      exact (ih (i + 1) _).trans List.length_set

theorem le_fst_of_mem_pairsFrom {e : Nat × Nat}
    (h : e ∈ pairsFrom distance right i text marks) : i ≤ e.1 :=
  ((isGreedy_pairsFrom distance right i text marks e.1 e.2).mp h).1.start

theorem matchFrom_left_iff (distance : Int) (right : List Char) (i : Nat) (text : List Char)
    (marks : List Bool) (k : Nat) : (matchFrom distance right i text marks).left[k]? = some true ↔
      ∃ b, (i + k, b) ∈ pairsFrom distance right i text marks := by
  induction text generalizing i marks k with
  | nil => simp [matchFrom, pairsFrom]
  | cons c text ih =>
    have hself : ∀ marks' b, (i, b) ∉ pairsFrom distance right (i + 1) text marks' :=
      fun marks' b h => Nat.lt_irrefl i (le_fst_of_mem_pairsFrom h)
    rw [pairsFrom]
    cases hfree : firstFree c (i - distance) (i + distance + 1) 0 right marks with
    | none =>
      rw [matchFrom_cons_none hfree]
      cases k with
      | zero => simp [hself]
      | succ k => rw [List.getElem?_cons_succ, ih, Nat.add_right_comm, Nat.add_assoc]
    | some j =>
      rw [matchFrom_cons_some hfree]
      cases k with
      | zero => simp
      | succ k =>
        rw [List.getElem?_cons_succ, ih]
        have hne : i + (k + 1) ≠ i := by omega
        simp only [List.mem_cons, Prod.mk.injEq, hne, false_and, false_or]
        rw [Nat.add_right_comm, Nat.add_assoc]

theorem matchFrom_right_iff (distance : Int) (right : List Char) (i : Nat) (text : List Char)
    (marks : List Bool) (b : Nat) :
    (matchFrom distance right i text marks).right[b]? = some true ↔
      marks[b]? = some true ∨ ∃ a, (a, b) ∈ pairsFrom distance right i text marks := by
  induction text generalizing i marks with
  | nil => simp [matchFrom, pairsFrom]
  | cons c text ih =>
    rw [pairsFrom]
    cases hfree : firstFree c (i - distance) (i + distance + 1) 0 right marks with
    | none => rw [matchFrom_cons_none hfree]; exact ih (i + 1) marks
    | some j =>
      have hmark : (marks.set j true)[b]? = some true ↔ marks[b]? = some true ∨ b = j := by
        obtain ⟨hlt, -⟩ := List.getElem?_eq_some_iff.mp (getElem?_marks_of_firstFree hfree)
        by_cases hbj : j = b
        · subst hbj
          simp [hlt]
        · simp [hbj, Ne.symm hbj]
      rw [matchFrom_cons_some hfree, ih, hmark, or_assoc]
      simp only [List.mem_cons, Prod.mk.injEq]
      refine or_congr_right ⟨?_, ?_⟩
      · rintro (rfl | ⟨a, ha⟩)
        · exact ⟨i, .inl ⟨rfl, rfl⟩⟩
        · exact ⟨a, .inr ha⟩
      · rintro ⟨a, ⟨-, rfl⟩ | ha⟩
        · exact .inl rfl
        · exact .inr ⟨a, ha⟩

theorem count_true_left (distance : Int) (right : List Char) (i : Nat) (text : List Char)
    (marks : List Bool) : (matchFrom distance right i text marks).left.count true =
      (matchFrom distance right i text marks).count := by
  induction text generalizing i marks with
  | nil => rfl
  | cons c text ih =>
    cases hfree : firstFree c (i - distance) (i + distance + 1) 0 right marks with
    | none =>
      rw [matchFrom_cons_none hfree, List.count_cons_of_ne (by decide)]
      exact ih (i + 1) marks
    | some j =>
      rw [matchFrom_cons_some hfree, List.count_cons_self]
      exact congrArg (· + 1) (ih (i + 1) _)

theorem count_true_right (distance : Int) (right : List Char) (i : Nat) (text : List Char)
    (marks : List Bool) : (matchFrom distance right i text marks).right.count true =
      marks.count true + (matchFrom distance right i text marks).count := by
  induction text generalizing i marks with
  | nil => rfl
  | cons c text ih =>
    cases hfree : firstFree c (i - distance) (i + distance + 1) 0 right marks with
    | none => rw [matchFrom_cons_none hfree]; exact ih (i + 1) marks
    | some j =>
      obtain ⟨hlt, hfalse⟩ := List.getElem?_eq_some_iff.mp (getElem?_marks_of_firstFree hfree)
      -- the mark that is set was not set before
      rw [matchFrom_cons_some hfree, ih, List.count_set hlt, hfalse]
      simp only [Bool.false_beq, Bool.not_true, beq_self_eq_true, if_true, Bool.false_eq_true,
        if_false]
      omega

end Scan

section Texts

variable {left right : List Char} {distance : Int}

theorem pairwise_fst_pairsFrom (distance : Int) (right : List Char) (i : Nat) (text : List Char)
    (marks : List Bool) :
    (pairsFrom distance right i text marks).Pairwise fun e e' => e.1 < e'.1 := by
  induction text generalizing i marks with
  | nil => exact .nil
  | cons c text ih =>
    rw [pairsFrom]
    cases hfree : firstFree c (i - distance) (i + distance + 1) 0 right marks with
    | none => exact ih (i + 1) marks
    | some j => exact .cons (fun e he => le_fst_of_mem_pairsFrom he) (ih (i + 1) _)

theorem nodup_pairs (left right : List Char) (distance : Int) :
    (pairs left right distance).Nodup :=
  (pairwise_fst_pairsFrom distance right 0 left _).imp fun hlt heq =>
    Nat.ne_of_lt hlt (congrArg Prod.fst heq)

theorem findMatches_count (left right : List Char) (distance : Int) :
    (findMatches left right distance).count = (pairs left right distance).length :=
  matchFrom_count distance right 0 left _

theorem findMatches_left_iff (k : Nat) :
    (findMatches left right distance).left[k]? = some true ↔
      ∃ b, (k, b) ∈ pairs left right distance := by
  rw [findMatches, matchFrom_left_iff, Nat.zero_add, pairs]

theorem findMatches_right_iff (k : Nat) :
    (findMatches left right distance).right[k]? = some true ↔
      ∃ a, (a, k) ∈ pairs left right distance := by
  rw [findMatches, matchFrom_right_iff, pairs]
  simp [List.getElem?_replicate]

theorem length_findMatches_left (left right : List Char) (distance : Int) :
    (findMatches left right distance).left.length = left.length :=
  length_left_matchFrom distance right 0 left _

theorem length_findMatches_right (left right : List Char) (distance : Int) :
    (findMatches left right distance).right.length = right.length := by
  rw [findMatches, length_right_matchFrom, List.length_replicate]

theorem findMatches_count_left (left right : List Char) (distance : Int) :
    (findMatches left right distance).left.count true = (findMatches left right distance).count :=
  count_true_left distance right 0 left _

theorem findMatches_count_right (left right : List Char) (distance : Int) :
    (findMatches left right distance).right.count true =
      (findMatches left right distance).count := by
  rw [findMatches, count_true_right, List.count_replicate]
  simp

/-- There are at most as many matches as there are characters in either text. -/
theorem count_findMatches_le (left right : List Char) (distance : Int) :
    (findMatches left right distance).count ≤ left.length ∧
      (findMatches left right distance).count ≤ right.length := by
  constructor
  · rw [← findMatches_count_left, ← length_findMatches_left left right distance]
    exact List.count_le_length
  · rw [← findMatches_count_right, ← length_findMatches_right left right distance]
    exact List.count_le_length

/-- Marks of one length are the same if the same positions are marked. -/
theorem marks_ext {marks marks' : List Bool} (hlength : marks.length = marks'.length)
    (hmarked : ∀ k : Nat, marks[k]? = some true ↔ marks'[k]? = some true) : marks = marks' := by
  refine List.ext_getElem hlength fun k hk hk' => ?_
  have h := hmarked k
  rw [List.getElem?_eq_getElem hk, List.getElem?_eq_getElem hk', Option.some.injEq,
    Option.some.injEq] at h
  exact Bool.eq_iff_iff.mpr h

/-- The scan counts as many pairs from either text. -/
theorem length_pairs_swap (left right : List Char) (distance : Int) :
    (pairs right left distance).length = (pairs left right distance).length := by
  have hswap : ((pairs left right distance).map Prod.swap).Nodup :=
    (List.nodup_map_iff Prod.swap_injective).mpr (nodup_pairs left right distance)
  -- no pair occurs twice, so that the same pairs are as many
  have hperm : (pairs right left distance).Perm ((pairs left right distance).map Prod.swap) := by
    rw [List.perm_ext_iff_of_nodup (nodup_pairs right left distance) hswap]
    rintro ⟨b, a⟩
    rw [mem_pairs_swap]
    simp
  rw [hperm.length_eq, List.length_map]

/-- Scanning from the other text finds the same matching, with the marks swapped. -/
theorem findMatches_swap (left right : List Char) (distance : Int) :
    findMatches right left distance = (findMatches left right distance).swap := by
  have hcount : (findMatches right left distance).count =
      (findMatches left right distance).count := by
    rw [findMatches_count, findMatches_count, length_pairs_swap]
  have hleft : (findMatches right left distance).left =
      (findMatches left right distance).right := by
    refine marks_ext (by rw [length_findMatches_left, length_findMatches_right]) fun k => ?_
    rw [findMatches_left_iff, findMatches_right_iff]
    exact exists_congr fun _ => mem_pairs_swap
  have hright : (findMatches right left distance).right =
      (findMatches left right distance).left := by
    refine marks_ext (by rw [length_findMatches_left, length_findMatches_right]) fun k => ?_
    rw [findMatches_left_iff, findMatches_right_iff]
    exact exists_congr fun _ => mem_pairs_swap
  rw [Matching.swap, ← hcount, ← hleft, ← hright]

end Texts

end DidYouMean.Similarity
