import DidYouMean.Proofs.Repeats
import DidYouMean.Proofs.Score.DoubleQuotients
import DidYouMean.Proofs.Score.Selections
import DidYouMean.Score.Namespaces

/-!
# The namespaces found

The known namespaces that match the query as a whole are found; only if there are none, those that match
it segment by segment are.  A mean score of zero stands for too few matching segments.  No other mean is
zero, since matching segments have scores well above it.

## Main definitions

- `segmentScores`: the scores of the segments that match
- `MatchesWhole`, `MatchesBySegments`: the two ways in which a namespace matches the query
- `meanScore`: the mean score of the segments that match

## Main statements

- `segmentScore_pos_iff`: the score by segments is positive if and only if enough of them match
- `matchesBySegments_iff`: enough are one half at least
- `suggestNamespaces_eq_slice`: what is found is a row, cut off
-/

namespace DidYouMean.Score

open Rounding

section Sums

variable {scores : List Float} {x : Float}

/-- A sum with more numbers with a plus sign is not less than what is added up. -/
theorem hasPlus_foldl_add (hx : HasPlus x) (h : ∀ s ∈ scores, HasPlus s) :
    HasPlus (scores.foldl (· + ·) x) ∧ x ≤ scores.foldl (· + ·) x ∧
      ∀ s ∈ scores, s ≤ scores.foldl (· + ·) x := by
  induction scores generalizing x with
  | nil => exact ⟨hx, hx.isNumber, by simp⟩
  | cons s scores ih =>
    obtain ⟨hs, hscores⟩ := List.forall_mem_cons.mp h
    obtain ⟨hsum, hle, hmore⟩ := ih (hx.add hs) hscores
    have hsle : s ≤ x + s := by
      rw [double_add_comm]
      exact double_le_add hs hx
    refine ⟨hsum, double_le_trans (double_le_add hx hs) hle, fun t ht => ?_⟩
    rcases List.mem_cons.mp ht with rfl | ht
    · exact double_le_trans hsle hle
    · exact hmore t ht

end Sums

section Shares

variable {parts known : List String} {count total : Nat}

theorem hasPlus_of_mem_matchingScores {s : Float} (hs : s ∈ matchingScores parts known) :
    HasPlus s ∧ 0.5 ≤ s := by
  have hleast : (leastSegmentScore : Float) ≤ s := of_decide_eq_true (List.mem_filter.mp hs).2
  have hhalf : (0.5 : Float) ≤ leastSegmentScore := by decide
  have hpos : (0.0 : Float) < leastSegmentScore := by decide
  exact ⟨.of_pos (double_lt_of_lt_of_le hpos hleast), double_le_trans hhalf hleast⟩

theorem length_matchingScores_le (parts known : List String) :
    (matchingScores parts known : List Float).length ≤ parts.length := by
  refine (List.length_filter_le _ _).trans ?_
  rw [List.length_zipWith]
  exact min_le_left _ _

/-- A share of one half takes a count that is neither zero nor too large for a double. -/
theorem units_of_half_le_ratio (htotal : 0 < total) (hle : count ≤ total)
    (hshare : (0.5 : Float) ≤ ratio count total) :
    0 < count ∧ units (Float.ofNat count) < overflow := by
  have hcount := (units_ofNat count).1
  have htotal' := (units_ofNat total).1
  constructor
  · by_contra hzero
    obtain rfl := Nat.eq_zero_of_not_pos hzero
    have hunits : units (Float.ofNat 0) = 0 := rfl
    have hpos : (0.0 : Float) < ratio 0 total := double_lt_of_lt_of_le (by decide) hshare
    exact not_pos_div hcount htotal' (.inl ⟨hunits, units_ofNat_pos htotal⟩) hpos
  · by_contra hlarge
    have hlarge : units (Float.ofNat count) = overflow :=
      le_antisymm hcount.units_le_overflow (Nat.le_of_not_lt hlarge)
    have hcounts := (double_le_iff_units_le hcount htotal').mp (ofNat_le_ofNat hle)
    have hlarge' : units (Float.ofNat total) = overflow :=
      le_antisymm htotal'.units_le_overflow (hlarge ▸ hcounts)
    exact not_isNumber_div hcount htotal' (.inr ⟨hlarge, hlarge'⟩) (double_le_self_right hshare)

/-- Then the mean of the scores is positive. -/
theorem mean_pos {scores : List Float} (h : ∀ s ∈ scores, HasPlus s ∧ 0.5 ≤ s)
    (hpos : 0 < scores.length) (hfinite : units (Float.ofNat scores.length) < overflow) :
    0.0 < scores.foldl (· + ·) 0.0 / Float.ofNat scores.length := by
  obtain ⟨s, hs⟩ := List.exists_mem_of_length_pos hpos
  obtain ⟨hsum, -, hle⟩ := hasPlus_foldl_add hasPlus_zero fun s hs => (h s hs).1
  have hhalf : HasPlus 0.5 := .of_pos (by decide)
  have hunits := (double_le_iff_units_le hhalf hsum).mp (double_le_trans (h s hs).2 (hle s hs))
  rw [units_half] at hunits
  have hroom : overflow ≤ 2 ^ 1073 * 2 ^ 1074 := by
    rw [overflow, ← pow_add, ← pow_add, Nat.pow_le_pow_iff_right one_lt_two, topExponent]
    decide
  have hexact : 1 * 2 ^ 0 * units (Float.ofNat scores.length) ≤
      units (scores.foldl (· + ·) 0.0) * 2 ^ 1074 := by
    rw [pow_zero, Nat.one_mul, Nat.one_mul]
    exact hfinite.le.trans (hroom.trans (Nat.mul_le_mul_right _ hunits))
  obtain ⟨hplus, hleast⟩ := hasPlus_div_and_le_units hsum (units_ofNat _).1 (units_ofNat_pos hpos)
    hfinite (by decide) overflow_pos hexact
  exact hplus.pos_iff.mpr hleast

/-- If enough segments match, the score by segments is the mean of their scores and positive; otherwise
it is not positive. -/
theorem segmentScore_pos_iff (hparts : parts ≠ []) (known : List String) :
    ((0.0 : Float) < segmentScore parts known ↔ (leastSegmentShare : Float) ≤
      ratio (matchingScores parts known : List Float).length parts.length) ∧
    ((0.0 : Float) < segmentScore parts known → (segmentScore parts known : Float) =
      (matchingScores parts known).foldl (· + ·) 0.0 /
        Arith.ofCount (matchingScores parts known : List Float).length) := by
  have htotal : 0 < parts.length := List.length_pos_of_ne_nil hparts
  have hle := length_matchingScores_le parts known
  have hscores : ∀ s ∈ matchingScores parts known, HasPlus s ∧ 0.5 ≤ s :=
    fun s => hasPlus_of_mem_matchingScores
  rw [segmentScore]
  generalize (matchingScores parts known : List Float) = scores at *
  have hcount := (units_ofNat scores.length).1
  have htotal' := (units_ofNat parts.length).1
  by_cases hfew : (scores.isEmpty ||
      ratio scores.length parts.length < (leastSegmentShare : Float)) = true
  · rw [if_pos hfew]
    refine ⟨⟨fun h => absurd h (double_lt_irrefl _), fun hshare => ?_⟩,
      fun h => absurd h (double_lt_irrefl _)⟩
    obtain ⟨hpos, -⟩ := units_of_half_le_ratio htotal hle hshare
    rcases (Bool.or_eq_true _ _).mp hfew with hempty | hlt
    · rw [List.isEmpty_iff.mp hempty] at hpos
      exact absurd hpos (lt_irrefl 0)
    · exact absurd (of_decide_eq_true hlt) (double_not_lt_of_le hshare)
  · rw [if_neg hfew]
    refine ⟨⟨fun hmean => ?_, fun hshare => ?_⟩, fun _ => rfl⟩
    · have hfinite : units (Float.ofNat scores.length) < overflow := by
        by_contra hlarge
        have hsum := (hasPlus_foldl_add hasPlus_zero fun s hs => (hscores s hs).1).1
        exact not_pos_div hsum hcount
          (.inr (le_antisymm hcount.units_le_overflow (Nat.le_of_not_lt hlarge))) hmean
      have hratio : HasPlus (ratio scores.length parts.length) :=
        hcount.div htotal' hfinite (units_ofNat_pos htotal)
      have hshare : HasPlus leastSegmentShare := .of_pos (by decide)
      refine (double_not_lt_iff hratio.isNumber hshare.isNumber).mp fun hlt => hfew ?_
      rw [decide_eq_true hlt, Bool.or_true]
    · obtain ⟨hpos, hfinite⟩ := units_of_half_le_ratio htotal hle hshare
      exact mean_pos hscores hpos hfinite

end Shares

section Matches

variable {query n : String} {namespaces : List String} {limit : Limit}

/-- A namespace matches the query as a whole. -/
def MatchesWhole (query n : String) : Prop :=
  (0.7 : Float) ≤ composite query n

/-- Of the scores of the segments of a namespace, each against the one of the query in its place, those
that are high enough to match. -/
def segmentScores (query n : String) : List Float :=
  (((Name.segments query).zip (Name.segments n)).map fun pair => composite pair.1 pair.2).filter
    fun s => (0.6 : Float) ≤ s

/-- A namespace matches the query segment by segment: it has as many segments, and the share of those
that match is one half at least. -/
def MatchesBySegments (query n : String) : Prop :=
  (Name.segments n).length = (Name.segments query).length ∧
    (0.5 : Float) ≤
      Float.ofNat (segmentScores query n).length / Float.ofNat (Name.segments query).length

/-- The mean score of the segments that match. -/
def meanScore (query n : String) : Float :=
  (segmentScores query n).foldl (· + ·) 0.0 / Float.ofNat (segmentScores query n).length

instance : Decidable (MatchesWhole query n) :=
  inferInstanceAs (Decidable ((0.7 : Float) ≤ composite query n))

instance : Decidable (MatchesBySegments query n) :=
  inferInstanceAs (Decidable (_ ∧ _))

/-- The search finds the scores of the segments that match. -/
theorem matchingScores_segments (query n : String) :
    matchingScores (Name.segments query) (Name.segments n) = segmentScores query n := by
  rw [segmentScores, List.map_zip_eq_zipWith]
  rfl

theorem length_segments_pos (s : String) : 0 < (Name.segments s).length := by
  rw [Name.segments, List.length_map, Text.length_splitAt]
  exact Nat.succ_pos _

/-- The share is high enough if and only if it is one half at least. -/
theorem matchesBySegments_iff (hquery : (Name.segments query).length ≤ 2 ^ 53) :
    MatchesBySegments query n ↔ (Name.segments n).length = (Name.segments query).length ∧
      (Name.segments query).length ≤ 2 * (segmentScores query n).length := by
  have hle : (segmentScores query n).length ≤ (Name.segments query).length := by
    rw [← matchingScores_segments]
    exact length_matchingScores_le _ _
  exact and_congr_right fun _ => half_le_div_ofNat_iff (length_segments_pos query) hle hquery

/-- The score by segments is positive if and only if enough segments match, and then it is their mean
score. -/
theorem segmentScore_segments (query n : String) :
    ((0.0 : Float) < segmentScore (Name.segments query) (Name.segments n) ↔
      (0.5 : Float) ≤
        Float.ofNat (segmentScores query n).length / Float.ofNat (Name.segments query).length) ∧
    ((0.0 : Float) < segmentScore (Name.segments query) (Name.segments n) →
      segmentScore (Name.segments query) (Name.segments n) = meanScore query n) := by
  have hparts := List.ne_nil_of_length_pos (length_segments_pos query)
  have hscore := segmentScore_pos_iff hparts (Name.segments n)
  rw [matchingScores_segments] at hscore
  exact hscore

/-- The whole matches, sorted, are a row. -/
theorem exists_isRow_wholeMatches (query : String) (known : List String) :
    ∃ row, IsRow (composite query : String → Float) (MatchesWhole query) known row ∧
      byScore (wholeMatches query known) = withScores (composite query : String → Float) row := by
  refine ⟨_, isRow_sortedRow fun _ _ => double_le_self_right, ?_⟩
  rw [← byScore_eq_withScores, wholeMatches, List.filter_map]
  rfl

/-- So are the matches by segments. -/
theorem exists_isRow_segmentMatches (query : String) (known : List String) :
    ∃ row, IsRow (meanScore query) (MatchesBySegments query) known row ∧
      byScore (segmentMatches query known) = withScores (meanScore query) row := by
  obtain ⟨row, hrow, hsorted⟩ := exists_isRow_byScore
    (fun n => (segmentScore (Name.segments query) (Name.segments n) : Float))
    (fun n => (Name.segments n).length = (Name.segments query).length)
    (fun n => (0.0 : Float) < segmentScore (Name.segments query) (Name.segments n))
    (fun s => decide (0.0 < s)) (fun _ => decide_eq_true_iff)
    (fun _ hpos => double_le_self_right (double_le_of_lt hpos)) known
  obtain ⟨hrow', hscores⟩ : IsRow (meanScore query) (MatchesBySegments query) known row ∧
      withScores _ row = withScores (meanScore query) row :=
    hrow.congr (fun n _ => and_congr_right fun _ => (segmentScore_segments query n).1)
      fun n _ hn => (segmentScore_segments query n).2 hn.2
  refine ⟨row, hrow', ?_⟩
  simp only [← hscores, ← hsorted, segmentMatches, beq_eq_decide]

/-- The known namespaces in the order in which they are first seen. -/
def knownNames (namespaces : List String) : List String :=
  (namespaces.filter (· ≠ "")).eraseDups

theorem wholeMatches_eq_nil_iff {known : List String} :
    (wholeMatches query known : List (String × Float)) = [] ↔
      ∀ n ∈ known, ¬MatchesWhole query n := by
  rw [wholeMatches, List.filter_eq_nil_iff, List.forall_mem_map]
  simp only [decide_eq_true_eq]
  rfl

theorem suggestNamespaces_of_ne_empty (hquery : query ≠ "") :
    (suggestNamespaces query namespaces limit : List (String × Float)) =
      let whole : List (String × Float) := wholeMatches query (knownNames namespaces)
      limit.take (byScore (if whole.isEmpty && 1 < (Name.segments query).length then
        segmentMatches query (knownNames namespaces) else whole)) :=
  if_neg hquery

/-- If a known namespace matches the query as a whole, the matches by segments have no part in what is
found. -/
theorem suggestNamespaces_of_whole (hquery : query ≠ "")
    (hwhole : ∃ n ∈ knownNames namespaces, MatchesWhole query n) :
    (suggestNamespaces query namespaces limit : List (String × Float)) =
      limit.take (byScore (wholeMatches query (knownNames namespaces))) := by
  have hsome : (wholeMatches query (knownNames namespaces) : List (String × Float)).isEmpty =
      false := by
    rw [List.isEmpty_eq_false_iff, Ne, wholeMatches_eq_nil_iff]
    exact fun hnone => hwhole.elim fun n hn => hnone n hn.1 hn.2
  rw [suggestNamespaces_of_ne_empty hquery]
  simp only [hsome, Bool.false_and, Bool.false_eq_true, if_false]

/-- If none does, only those have, and only if the query has several segments. -/
theorem suggestNamespaces_of_not_whole (hquery : query ≠ "")
    (hwhole : ∀ n ∈ knownNames namespaces, ¬MatchesWhole query n) :
    (suggestNamespaces query namespaces limit : List (String × Float)) =
      limit.take (byScore (if 1 < (Name.segments query).length then
        segmentMatches query (knownNames namespaces) else [])) := by
  rw [suggestNamespaces_of_ne_empty hquery]
  simp only [wholeMatches_eq_nil_iff.mpr hwhole, List.isEmpty_nil, Bool.true_and,
    decide_eq_true_eq]

theorem nodup_map_fst_take {score : String → Float} {kept : String → Prop} {row : List (String × Nat)}
    (h : IsRow score kept (knownNames namespaces) row) (limit : Limit) :
    ((limit.take (withScores score row)).map (·.1)).Nodup := by
  have hnames : (withScores score row).map (·.1) = row.map (·.1) := by
    rw [withScores, List.map_map]
    rfl
  rw [limit.map_take, hnames]
  exact (h.nodup_map_fst (nodup_eraseDups _)).sublist (limit.take_sublist _)

/-- What is found for a query: nothing for an empty one; else the row of the known namespaces that match it
as a whole, if there are any; else, if it has several segments, the row of those that match it segment by
segment; and else nothing.  Rows are cut off at the limit, and no namespace is found twice. -/
theorem suggestNamespaces_eq_slice (query : String) (namespaces : List String) (limit : Limit) :
    let known := knownNames namespaces
    let found : List (String × Float) := suggestNamespaces query namespaces limit
    (query = "" → found = []) ∧
    (query ≠ "" → (∃ n ∈ known, MatchesWhole query n) →
      ∃ row, IsRow (composite query : String → Float) (MatchesWhole query) known row ∧
        found = limit.take (withScores (composite query : String → Float) row)) ∧
    (query ≠ "" → (∀ n ∈ known, ¬MatchesWhole query n) → 1 < (Name.segments query).length →
      ∃ row, IsRow (meanScore query) (MatchesBySegments query) known row ∧
        found = limit.take (withScores (meanScore query) row)) ∧
    (query ≠ "" → (∀ n ∈ known, ¬MatchesWhole query n) → ¬1 < (Name.segments query).length →
      found = []) ∧
    (found.map (·.1)).Nodup ∧
    ((Name.segments query).length ≤ 2 ^ 53 → ∀ n, MatchesBySegments query n ↔
      (Name.segments n).length = (Name.segments query).length ∧
        (Name.segments query).length ≤ 2 * (segmentScores query n).length) := by
  intro known found
  obtain ⟨wholeRow, hwholeRow, hwholeSorted⟩ := exists_isRow_wholeMatches query known
  obtain ⟨segmentRow, hsegmentRow, hsegmentSorted⟩ := exists_isRow_segmentMatches query known
  have hempty : query = "" → found = [] := fun hquery => if_pos hquery
  have hwhole : query ≠ "" → (∃ n ∈ known, MatchesWhole query n) →
      found = limit.take (withScores (composite query : String → Float) wholeRow) := by
    intro hquery hsome
    rw [← hwholeSorted]
    exact suggestNamespaces_of_whole hquery hsome
  have hsegments : query ≠ "" → (∀ n ∈ known, ¬MatchesWhole query n) →
      1 < (Name.segments query).length →
        found = limit.take (withScores (meanScore query) segmentRow) := by
    intro hquery hnone hseveral
    have hfound : found = limit.take _ := suggestNamespaces_of_not_whole hquery hnone
    rwa [if_pos hseveral, hsegmentSorted] at hfound
  have hnothing : query ≠ "" → (∀ n ∈ known, ¬MatchesWhole query n) →
      ¬1 < (Name.segments query).length → found = [] := by
    intro hquery hnone hsingle
    have hfound : found = limit.take _ := suggestNamespaces_of_not_whole hquery hnone
    rw [if_neg hsingle, byScore, List.mergeSort_nil] at hfound
    exact hfound.trans (List.sublist_nil.mp (limit.take_sublist []))
  refine ⟨hempty, fun hquery hsome => ⟨wholeRow, hwholeRow, hwhole hquery hsome⟩,
    fun hquery hnone hseveral => ⟨segmentRow, hsegmentRow, hsegments hquery hnone hseveral⟩,
    hnothing, ?_, fun hlength n => matchesBySegments_iff hlength⟩
  by_cases hquery : query = ""
  · rw [hempty hquery]
    exact List.nodup_nil
  · by_cases hsome : ∃ n ∈ known, MatchesWhole query n
    · rw [hwhole hquery hsome]
      exact nodup_map_fst_take hwholeRow limit
    · have hnone : ∀ n ∈ known, ¬MatchesWhole query n := fun n hn h => hsome ⟨n, hn, h⟩
      by_cases hseveral : 1 < (Name.segments query).length
      · rw [hsegments hquery hnone hseveral]
        exact nodup_map_fst_take hsegmentRow limit
      · rw [hnothing hquery hnone hseveral]
        exact List.nodup_nil

/-- Of the first known namespaces none matches the query as a whole, and one matches one segment of two.
Of the second ones, one does as a whole, and it is found once. -/
theorem suggestNamespaces_eq_slice_io :
    let query := "qwxyzkl.io"
    let namespaces := ["mnbvcpr.io", "", "aaaaaaa.bb", "mnbvcpr.io", "mnbvcpr.io.extra"]
    let other := "SubNamespce.io"
    let others := ["SubNamespace.io", "qwxyzkl.io", "SubNamespace.io"]
    (query ≠ "" ∧ (∀ n ∈ knownNames namespaces, ¬MatchesWhole query n) ∧
      1 < (Name.segments query).length ∧ segmentScores query "mnbvcpr.io" = [composite "io" "io"] ∧
      suggestNamespaces query namespaces (some 5) = [("mnbvcpr.io", meanScore query "mnbvcpr.io")]) ∧
    (other ≠ "" ∧ (∃ n ∈ knownNames others, MatchesWhole other n) ∧
      suggestNamespaces other others none =
        [("SubNamespace.io", (composite other "SubNamespace.io" : Float))]) := by
  intro query namespaces other others
  obtain ⟨-, -, hsegments, -⟩ := suggestNamespaces_eq_slice query namespaces (some 5)
  obtain ⟨-, hwhole, -⟩ := suggestNamespaces_eq_slice other others none
  have hquery : query ≠ "" := by decide
  have hnone : ∀ n ∈ knownNames namespaces, ¬MatchesWhole query n := by decide +kernel
  have hseveral : 1 < (Name.segments query).length := by decide
  have hscores : segmentScores query "mnbvcpr.io" = [composite "io" "io"] := by decide +kernel
  have hother : other ≠ "" := by decide
  have hsome : ∃ n ∈ knownNames others, MatchesWhole other n := by decide +kernel
  obtain ⟨row, hrow, hfound⟩ := hsegments hquery hnone hseveral
  obtain ⟨row', hrow', hfound'⟩ := hwhole hother hsome
  -- only the first namespace known is kept, here and there
  have hplace : (knownNames namespaces)[0]? = some "mnbvcpr.io" := by decide
  have hplace' : (knownNames others)[0]? = some "SubNamespace.io" := by decide
  obtain rfl := hrow.eq_singleton hplace (by decide +kernel) (by decide +kernel)
  obtain rfl := hrow'.eq_singleton hplace' (by decide +kernel) (by decide +kernel)
  exact ⟨⟨hquery, hnone, hseveral, hscores, hfound⟩, hother, hsome, hfound'⟩

end Matches

end DidYouMean.Score
