import DidYouMean.Proofs.Similarity.Symmetry
import Mathlib.Algebra.Order.Field.Basic
import Mathlib.Algebra.Order.Ring.Rat
import Mathlib.Data.List.Perm.Basic
import Mathlib.Tactic.Linarith
import Mathlib.Tactic.LinearCombination
import Mathlib.Tactic.NormNum
import Mathlib.Tactic.Positivity

/-!
# Bounds of the similarities

In exact arithmetic both similarities are between zero and one.  One is kept for equal texts: the
scan marks the same characters on both texts, in whatever order, and so texts that are matched as a
whole cannot differ in a single place.

## Main statements

- `perm_markedChars`: the marked characters of both texts are the same up to their order
- `matchScore_eq_one_iff`: what is matched as a whole and without transpositions has the score one
- `findMatches_count_eq_zero_iff`: nothing is matched if nothing may be matched
- `exact_similarity_bounds`: the bounds, and when they are reached
-/

namespace DidYouMean.Similarity

section Marked

open scoped List

/-- A mark that is set adds its character to the marked ones. -/
theorem perm_markedChars_set {c : Char} {j : Nat} {text : List Char} {marks : List Bool}
    (hchar : text[j]? = some c) (hunmarked : marks[j]? = some false) :
    (markedChars text (marks.set j true)).Perm (c :: markedChars text marks) := by
  induction text generalizing j marks with
  | nil => simp at hchar
  | cons d text ih =>
    cases marks with
    | nil => simp at hunmarked
    | cons marked marks =>
      cases j with
      | zero =>
        simp only [List.getElem?_cons_zero, Option.some.injEq] at hchar hunmarked
        subst hchar hunmarked
        simp [markedChars]
      | succ j =>
        rw [List.getElem?_cons_succ] at hchar hunmarked
        have hrest := ih hchar hunmarked
        cases marked with
        | false => simpa [markedChars] using hrest
        | true => simpa [markedChars] using (hrest.cons d).trans (List.Perm.swap c d _)

/-- The scan marks one more character of the right text for each that it marks of the left one, and the
same character. -/
theorem perm_markedChars_matchFrom (distance : Int) (right : List Char) (i : Nat)
    (text : List Char) (marks : List Bool) :
    (markedChars right (matchFrom distance right i text marks).right).Perm
      (markedChars text (matchFrom distance right i text marks).left ++
        markedChars right marks) := by
  induction text generalizing i marks with
  | nil => exact .refl _
  | cons c text ih =>
    cases hfree : firstFree c (i - distance) (i + distance + 1) 0 right marks with
    | none =>
      rw [matchFrom_cons_none hfree]
      exact ih (i + 1) marks
    | some j =>
      obtain ⟨hj, -⟩ := (firstFree_spec _ _ _ _ _ _).1 j hfree
      rw [matchFrom_cons_some hfree]
      calc markedChars right (matchFrom distance right (i + 1) text (marks.set j true)).right
        _ ~ markedChars text (matchFrom distance right (i + 1) text (marks.set j true)).left ++
              markedChars right (marks.set j true) := ih (i + 1) _
        _ ~ markedChars text (matchFrom distance right (i + 1) text (marks.set j true)).left ++
              c :: markedChars right marks :=
            (perm_markedChars_set hj.char hj.unmarked).append_left _
        _ ~ _ := List.perm_middle

theorem markedChars_replicate_false (text : List Char) (n : Nat) :
    markedChars text (List.replicate n false) = [] := by
  induction text generalizing n with
  | nil => rfl
  | cons c text ih =>
    cases n with
    | zero => rfl
    | succ n => exact ih n

/-- The marked characters of both texts are the same up to their order. -/
theorem perm_markedChars (left right : List Char) (distance : Int) :
    (markedChars right (findMatches left right distance).right).Perm
      (markedChars left (findMatches left right distance).left) := by
  have hscan := perm_markedChars_matchFrom distance right 0 left
    (List.replicate right.length false)
  rwa [markedChars_replicate_false, List.append_nil] at hscan

/-- A text all of whose positions are marked is its own row of marked characters. -/
theorem markedChars_of_full {text : List Char} {marks : List Bool}
    (hlength : marks.length = text.length) (hfull : marks.count true = text.length) :
    markedChars text marks = text := by
  have hmarks : marks = List.replicate text.length true := by
    refine List.eq_replicate_iff.mpr ⟨hlength, fun marked hmem => ?_⟩
    exact (List.count_eq_length.mp (hfull.trans hlength.symm) marked hmem).symm
  subst hmarks
  clear hlength hfull
  induction text with
  | nil => rfl
  | cons c text ih => exact congrArg (c :: ·) ih

/-- Rows of the same characters do not differ in one place only. -/
theorem eq_of_perm_of_countP_le_one {xs ys : List Char} (hperm : xs.Perm ys)
    (hone : ((xs.zip ys).countP fun e => e.1 != e.2) ≤ 1) : xs = ys := by
  induction xs generalizing ys with
  | nil => rw [hperm.nil_eq]
  | cons x xs ih =>
    cases ys with
    | nil => exact absurd hperm.length_eq (by simp)
    | cons y ys =>
      by_cases hxy : x = y
      · subst hxy
        rw [ih ((List.perm_cons x).mp hperm) (by simpa using hone)]
      · -- the first place is the one, and so the rests are equal and the first characters are too
        have hrest : ((xs.zip ys).countP fun e => e.1 != e.2) = 0 := by
          simp only [List.zip_cons_cons, List.countP_cons, bne_iff_ne, ne_eq, hxy,
            not_false_eq_true, if_true] at hone
          omega
        have hlength : xs.length = ys.length := by simpa using hperm.length_eq
        have hsame : xs = ys := by
          refine List.ext_getElem hlength fun k hk hk' => ?_
          have hpair := List.countP_eq_zero.mp hrest (xs[k], ys[k])
            (List.mem_iff_getElem.mpr ⟨k, by simp [hk, hk'], by simp⟩)
          simpa using hpair
        subst hsame
        have hcount := hperm.count_eq x
        simp [Ne.symm hxy] at hcount

end Marked

section Counts

variable (left right : List Char) (distance : Int)

/-- At most every second match is part of a transposition. -/
theorem exists_transpositions (left right : List Char) (distance : Int) :
    ∃ t, transpositions? left right (findMatches left right distance) = some t ∧
      2 * t ≤ (findMatches left right distance).count := by
  refine ⟨_, transpositions?_findMatches left right distance, ?_⟩
  have hpairs : (markedPairs left right distance).length ≤
      (findMatches left right distance).count := by
    rw [← findMatches_count_left, ← length_markedChars (length_findMatches_left left right distance),
      markedPairs, List.length_zip]
    exact Nat.min_le_left _ _
  have hcount := List.countP_le_length (p := fun e => e.1 != e.2)
    (l := markedPairs left right distance)
  omega

/-- Texts that are matched as a whole and without transpositions are equal. -/
theorem eq_of_count_eq_length (hleft : (findMatches left right distance).count = left.length)
    (hright : (findMatches left right distance).count = right.length)
    (hnone : transpositions? left right (findMatches left right distance) = some 0) :
    left = right := by
  have hchars : markedChars left (findMatches left right distance).left = left :=
    markedChars_of_full (length_findMatches_left _ _ _)
      ((findMatches_count_left _ _ _).trans hleft)
  have hchars' : markedChars right (findMatches left right distance).right = right :=
    markedChars_of_full (length_findMatches_right _ _ _)
      ((findMatches_count_right _ _ _).trans hright)
  have hperm := perm_markedChars left right distance
  rw [transpositions?_findMatches, markedPairs, hchars, hchars', Option.some.injEq] at hnone
  rw [hchars, hchars'] at hperm
  exact eq_of_perm_of_countP_le_one hperm.symm (by omega)

/-- Nothing is matched if and only if nothing may be matched. -/
theorem findMatches_count_eq_zero_iff : (findMatches left right distance).count = 0 ↔
    ∀ a b, ¬Meets left right distance a b := by
  have hgreedy := isGreedy_pairs left right distance
  rw [findMatches_count, List.length_eq_zero_iff]
  constructor
  · intro hnil a b hmeets
    have hmem : (a, b) ∈ pairs left right distance :=
      (hgreedy a b).mpr ⟨hmeets, by simp [hnil], by simp [hnil]⟩
    simp [hnil] at hmem
  · intro hnone
    refine List.eq_nil_iff_forall_not_mem.mpr fun e he => hnone e.1 e.2 ?_
    exact ((hgreedy e.1 e.2).mp he).1

end Counts

section Exact

theorem matchScore_rat (m t a b : Nat) : (matchScore m t a b : ℚ) =
    ((m : ℚ) / a + (m : ℚ) / b + ((m - t : Nat) : ℚ) / m) / 3 := by
  change ((m : ℚ) / a + (m : ℚ) / b + ((m - t : Nat) : ℚ) / m) / 3.0 = _
  norm_num

/-- A part of a number of things is between none of them and all of them. -/
theorem share_bounds {a b : Nat} (hle : a ≤ b) (hpos : 0 < b) :
    0 ≤ (a : ℚ) / b ∧ (a : ℚ) / b ≤ 1 ∧ ((a : ℚ) / b = 1 ↔ a = b) := by
  have hb : (0 : ℚ) < b := Nat.cast_pos.mpr hpos
  refine ⟨by positivity, (div_le_one hb).mpr (Nat.cast_le.mpr hle), ?_⟩
  rw [div_eq_one_iff_eq hb.ne', Nat.cast_inj]

variable {m t a b : Nat}

theorem matchScore_pos (hm : 0 < m) (ha : m ≤ a) : 0 < (matchScore m t a b : ℚ) := by
  have hmrat : (0 : ℚ) < m := Nat.cast_pos.mpr hm
  have harat : (0 : ℚ) < a := Nat.cast_pos.mpr (hm.trans_le ha)
  rw [matchScore_rat]
  positivity

theorem matchScore_le_one (hm : 0 < m) (ha : m ≤ a) (hb : m ≤ b) :
    (matchScore m t a b : ℚ) ≤ 1 := by
  obtain ⟨-, hleft, -⟩ := share_bounds ha (hm.trans_le ha)
  obtain ⟨-, hright, -⟩ := share_bounds hb (hm.trans_le hb)
  obtain ⟨-, hrow, -⟩ := share_bounds (Nat.sub_le m t) hm
  rw [matchScore_rat]
  linarith

/-- What is matched as a whole and without transpositions has the score one, and nothing else has. -/
theorem matchScore_eq_one_iff (hm : 0 < m) (ha : m ≤ a) (hb : m ≤ b) (ht : t ≤ m) :
    (matchScore m t a b : ℚ) = 1 ↔ m = a ∧ m = b ∧ t = 0 := by
  obtain ⟨-, hleft, hleft'⟩ := share_bounds ha (hm.trans_le ha)
  obtain ⟨-, hright, hright'⟩ := share_bounds hb (hm.trans_le hb)
  obtain ⟨-, hrow, hrow'⟩ := share_bounds (Nat.sub_le m t) hm
  rw [← hleft', ← hright', show t = 0 ↔ m - t = m by omega, ← hrow', matchScore_rat]
  constructor
  · intro hone
    -- none of the three shares can make up for what another one is short of
    exact ⟨by linarith, by linarith, by linarith⟩
  · rintro ⟨h, h', h''⟩
    rw [h, h', h'']
    norm_num

variable (left right : List Char)

theorem jaro_of_eq {left right : List Char} (h : left = right) : (jaro left right : ℚ) = 1 := by
  rw [jaro, if_pos h]
  change (1.0 : ℚ) = 1
  norm_num

/-- Texts that differ have the similarity zero if nothing is matched, and the score of their matches
otherwise. -/
theorem jaro_of_ne {left right : List Char} (h : left ≠ right) :
    let count := (findMatches left right (matchDistance left right)).count
    (count = 0 ∧ (jaro left right : ℚ) = 0) ∨
    ∃ t, 0 < count ∧ count ≤ left.length ∧ count ≤ right.length ∧ 2 * t ≤ count ∧
      transpositions? left right (findMatches left right (matchDistance left right)) = some t ∧
      (jaro left right : ℚ) = matchScore count t left.length right.length := by
  intro count
  have hzero : (0.0 : ℚ) = 0 := by norm_num
  obtain ⟨hleft, hright⟩ := count_findMatches_le left right (matchDistance left right)
  obtain ⟨t, htranspositions, ht⟩ := exists_transpositions left right (matchDistance left right)
  rcases Nat.eq_zero_or_pos count with hcount | hcount
  · refine .inl ⟨hcount, ?_⟩
    rw [jaro, if_neg h]
    dsimp only
    rw [if_pos hcount, ite_self]
    exact hzero
  · refine .inr ⟨t, hcount, hleft, hright, ht, htranspositions, ?_⟩
    have hfilled : (left.isEmpty || right.isEmpty) = false := by
      cases left <;> cases right <;> simp_all
      all_goals omega
    rw [jaro, if_neg h, hfilled]
    simp only [Bool.false_eq_true, if_false]
    rw [if_neg hcount.ne', htranspositions, Option.getD_some]

theorem jaro_nonneg : 0 ≤ (jaro left right : ℚ) := by
  by_cases h : left = right
  · rw [jaro_of_eq h]
    exact zero_le_one
  · obtain ⟨-, hzero⟩ | ⟨t, hcount, hleft, -, -, -, hscore⟩ := jaro_of_ne h
    · rw [hzero]
    · rw [hscore]
      exact (matchScore_pos hcount hleft).le

theorem jaro_le_one : (jaro left right : ℚ) ≤ 1 := by
  by_cases h : left = right
  · rw [jaro_of_eq h]
  · obtain ⟨-, hzero⟩ | ⟨t, hcount, hleft, hright, -, -, hscore⟩ := jaro_of_ne h
    · rw [hzero]
      exact zero_le_one
    · rw [hscore]
      exact matchScore_le_one hcount hleft hright

theorem jaro_eq_one_iff : (jaro left right : ℚ) = 1 ↔ left = right := by
  refine ⟨fun hone => ?_, jaro_of_eq⟩
  by_contra h
  obtain ⟨-, hzero⟩ | ⟨t, hcount, hleft, hright, ht, htranspositions, hscore⟩ := jaro_of_ne h
  · rw [hzero] at hone
    exact zero_ne_one hone
  · rw [hscore, matchScore_eq_one_iff hcount hleft hright (by omega)] at hone
    obtain ⟨hleft, hright, rfl⟩ := hone
    exact h (eq_of_count_eq_length left right _ hleft hright htranspositions)

theorem jaro_eq_zero_iff : (jaro left right : ℚ) = 0 ↔
    left ≠ right ∧ ∀ a b, ¬Meets left right (matchDistance left right) a b := by
  rw [← findMatches_count_eq_zero_iff]
  by_cases h : left = right
  · rw [jaro_of_eq h]
    exact iff_of_false one_ne_zero fun hnone => hnone.1 h
  · obtain ⟨hcount, hzero⟩ | ⟨t, hcount, hleft, -, -, -, hscore⟩ := jaro_of_ne h
    · exact iff_of_true hzero ⟨h, hcount⟩
    · rw [hscore]
      exact iff_of_false (matchScore_pos hcount hleft).ne' fun hnone => hcount.ne' hnone.2

theorem sharedLead_le : sharedLead left right ≤ left.length := by
  fun_induction sharedLead left right with
  | case1 a left right ih => exact Nat.succ_le_succ ih
  | case2 => exact Nat.zero_le _
  | case3 => exact Nat.zero_le _

theorem sharedLead_take_le :
    sharedLead (left.take leadLimit) (right.take leadLimit) ≤ leadLimit :=
  (sharedLead_le _ _).trans (List.length_take_le _ _)

/-- The Winkler variant goes less than half of the way that is left to one. -/
theorem jaroWinkler_rat : ∃ part : ℚ, 0 ≤ part ∧ part < 1 ∧
    (jaroWinkler left right : ℚ) = jaro left right + part * (1 - jaro left right) := by
  have hlead := sharedLead_take_le left right
  refine ⟨sharedLead (left.take leadLimit) (right.take leadLimit) * (0.1 : ℚ), by positivity, ?_, ?_⟩
  · have hle : (sharedLead (left.take leadLimit) (right.take leadLimit) : ℚ) ≤ 4 := by
      exact_mod_cast hlead
    norm_num
    linarith
  · have hone : (1.0 : ℚ) = 1 := by norm_num
    rw [← hone]
    rfl

/-- Both similarities are between zero and one, and the Winkler variant is the higher one.  They are
one for equal texts only.  The Jaro similarity is zero only for texts that differ and have no equal
characters within the distance. -/
theorem exact_similarity_bounds :
    0 ≤ (jaro left right : ℚ) ∧ (jaro left right : ℚ) ≤ jaroWinkler left right ∧
    (jaroWinkler left right : ℚ) ≤ 1 ∧
    ((jaro left right : ℚ) = 1 ↔ left = right) ∧
    ((jaroWinkler left right : ℚ) = 1 ↔ left = right) ∧
    ((jaro left right : ℚ) = 0 ↔
      left ≠ right ∧ ∀ a b, ¬Meets left right (matchDistance left right) a b) := by
  obtain ⟨part, hpart, hpart', hwinkler⟩ := jaroWinkler_rat left right
  have hle := jaro_le_one left right
  have hone := jaro_eq_one_iff left right
  rw [hwinkler]
  refine ⟨jaro_nonneg left right, ?_, ?_, hone, ?_, jaro_eq_zero_iff left right⟩
  · have hgain : 0 ≤ part * (1 - jaro left right) := mul_nonneg hpart (by linarith)
    linarith
  · have hgain : part * (1 - jaro left right) ≤ 1 * (1 - jaro left right) :=
      mul_le_mul_of_nonneg_right hpart'.le (by linarith)
    linarith
  · rw [← hone]
    constructor
    · intro hsum
      -- what is left of the way to one is nothing
      have hrest : (1 - part) * (1 - jaro left right : ℚ) = 0 := by linear_combination -hsum
      rcases mul_eq_zero.mp hrest with h | h <;> linarith
    · intro hjaro
      rw [hjaro]
      norm_num

end Exact

end DidYouMean.Similarity
