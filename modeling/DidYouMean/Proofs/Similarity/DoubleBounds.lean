import DidYouMean.Proofs.Score.DoubleQuotients
import DidYouMean.Proofs.Similarity.Bounds

/-!
# Bounds of similarities in doubles

Rounding does not carry a similarity of doubles past one.  Only where a text is so long that its length
is not finite as a double, a similarity may fail to be a number.

## Main statements

- `ratio_le_one`, `matchScore_le_one_double`: shares, and the mean of three of them
- `jaro_le_one_double`, `jaroWinkler_le_one_double`: the similarities
- `jaroWinkler_self_double`: a text and itself
-/

namespace DidYouMean.Similarity

variable {left right : List Char}

/-- A share is at most one. -/
theorem ratio_le_one {a b : Nat} (hle : a ≤ b) (h : (ratio a b : Float) ≤ ratio a b) :
    HasPlus (ratio a b) ∧ (ratio a b : Float) ≤ 1.0 :=
  hasPlus_div_and_div_le_one (units_ofNat a).1 (units_ofNat b).1 (ofNat_le_ofNat hle) h

/-- The mean of three shares is at most one. -/
theorem matchScore_le_one_double {m t a b : Nat} (ha : m ≤ a) (hb : m ≤ b)
    (h : (matchScore m t a b : Float) ≤ matchScore m t a b) :
    HasPlus (matchScore m t a b) ∧ (matchScore m t a b : Float) ≤ 1.0 := by
  have hthree : HasPlus 3.0 := rfl
  obtain ⟨hsum, -⟩ := isNumber_of_div h
  obtain ⟨hlengths, htranspositions⟩ := isNumber_of_add hsum
  obtain ⟨hleft, hright⟩ := isNumber_of_add hlengths
  obtain ⟨hplusLeft, hleft⟩ := ratio_le_one ha hleft
  obtain ⟨hplusRight, hright⟩ := ratio_le_one hb hright
  obtain ⟨hplus, htranspositions⟩ := ratio_le_one (Nat.sub_le m t) htranspositions
  have hlengths := double_add_le_add hplusLeft hasPlus_one hplusRight hasPlus_one hleft hright
  have hsum := double_add_le_add (hplusLeft.add hplusRight) (hasPlus_one.add hasPlus_one) hplus
    hasPlus_one hlengths htranspositions
  have hones : (1.0 + 1.0 + 1.0 : Float) ≤ 3.0 := by decide
  exact hasPlus_div_and_div_le_one ((hplusLeft.add hplusRight).add hplus) hthree
    (double_le_trans hsum hones) h

theorem jaro_le_one_double (h : (jaro left right : Float) ≤ jaro left right) :
    HasPlus (jaro left right) ∧ (jaro left right : Float) ≤ 1.0 := by
  have hzero : HasPlus 0.0 ∧ (0.0 : Float) ≤ 1.0 := ⟨hasPlus_zero, by decide⟩
  rw [jaro] at h ⊢
  dsimp only at h ⊢
  split_ifs at h ⊢
  · exact ⟨hasPlus_one, hasPlus_one.isNumber⟩
  · exact hzero
  · exact hzero
  · obtain ⟨hleft, hright⟩ := count_findMatches_le left right (matchDistance left right)
    exact matchScore_le_one_double hleft hright h

/-- A number moved towards one by at most half of the way stays at most one. -/
theorem add_part_le_one {x w : Float} (hx : HasPlus x) (hle : x ≤ 1.0) (hw : HasPlus w)
    (hhalf : w ≤ 0.5) : HasPlus (x + w * (1.0 - x)) ∧ x + w * (1.0 - x) ≤ 1.0 := by
  have hplusHalf : HasPlus 0.5 := rfl
  have hrest := (hasPlus_sub_and_units_sub hasPlus_one hx units_one_lt_overflow hle).1
  have hrestOne : 1.0 - x ≤ 1.0 :=
    (double_not_lt_iff hasPlus_one.isNumber hrest.isNumber).mp (not_lt_sub hasPlus_one hx)
  have hwOne : w ≤ 1.0 := double_le_trans hhalf (by decide)
  have hunitsRest := (double_le_iff_units_le hrest hasPlus_one).mp hrestOne
  have hunitsW := (double_le_iff_units_le hw hasPlus_one).mp hwOne
  have hfiniteRest := hunitsRest.trans_lt units_one_lt_overflow
  have hfiniteW := hunitsW.trans_lt units_one_lt_overflow
  by_cases hlarge : 0.5 ≤ x
  · -- what is missing to one is exact, and the part of it is not more
    have hexact := units_one_sub_of_half_le hx hle hlarge
    obtain ⟨hpart, hpartRest⟩ := hasPlus_mul_and_mul_le hw hrest hrest hfiniteW hfiniteRest
      hfiniteRest (by rw [mul_comm]; exact Nat.mul_le_mul_left _ hunitsW)
    rw [double_le_iff_units_le hpart hrest] at hpartRest
    refine ⟨hx.add hpart, add_le_of_units_le hx hpart hasPlus_one ?_⟩
    rw [← hexact, add_comm]
    exact Nat.add_le_add_right hpartRest _
  · obtain ⟨hpart, hpartW⟩ := hasPlus_mul_and_mul_le hw hrest hw hfiniteW hfiniteRest hfiniteW
      (Nat.mul_le_mul_left _ hunitsRest)
    have hsmall : x ≤ 0.5 := double_le_of_not_le hx.isNumber hplusHalf.isNumber hlarge
    have hsum := double_add_le_add hx hplusHalf hpart hplusHalf hsmall
      (double_le_trans hpartW hhalf)
    exact ⟨hx.add hpart, double_le_trans hsum (by decide)⟩

/-- The leading characters are worth at most half of the way. -/
theorem leadWeight_le_half {n : Nat} (h : n ≤ leadLimit) :
    HasPlus (Arith.ofCount n * leadWeight) ∧ (Arith.ofCount n * leadWeight : Float) ≤ 0.5 := by
  rw [leadLimit] at h
  interval_cases n
  · exact ⟨rfl, by decide⟩
  all_goals exact ⟨.of_pos (by decide), by decide +kernel⟩

theorem jaroWinkler_le_one_double
    (h : (jaroWinkler left right : Float) ≤ jaroWinkler left right) :
    HasPlus (jaroWinkler left right) ∧ (jaroWinkler left right : Float) ≤ 1.0 := by
  obtain ⟨hbase, hle⟩ := jaro_le_one_double (isNumber_of_add h).1
  obtain ⟨hpart, hhalf⟩ := leadWeight_le_half (sharedLead_take_le left right)
  exact add_part_le_one hbase hle hpart hhalf

/-- A text and itself have similarity one. -/
theorem jaroWinkler_self_double (text : List Char) : (jaroWinkler text text : Float) = 1.0 := by
  have hlead := sharedLead_take_le text text
  rw [jaroWinkler, jaro, if_pos rfl]
  generalize sharedLead (text.take leadLimit) (text.take leadLimit) = n at hlead ⊢
  rw [leadLimit] at hlead
  interval_cases n <;> decide

end DidYouMean.Similarity
