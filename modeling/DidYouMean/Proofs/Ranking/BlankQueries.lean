import DidYouMean.Proofs.Name.Tokens
import DidYouMean.Proofs.Ranking.Suggestions
import DidYouMean.Proofs.Score.DoubleOperations

/-!
# Queries without content

A query of low lines and white space has no words, and nothing is left of it in its normal form.  A
name with the same normal form is the query in another spelling.  To any other name it has no similarity
and no bonuses, so that all there can be to the score is a penalty.

## Main statements

- `normalize_eq_empty_iff`, `distinctTokens_of_separators`: what is left of a name of separators
- `breakdown_of_separators`: the parts of its scores
- `rankPool_of_separators`: nothing is suggested for it
-/

namespace DidYouMean

namespace Name

variable {s : String}

/-- Nothing but separators is left out of a normal form. -/
theorem normalize_eq_empty_iff : normalize s = "" ↔ ∀ c ∈ s.toList, isSeparator c := by
  have hbare : normalize s = "" ↔ bare s = [] := by
    rw [← String.toList_inj, toList_normalize]
    exact Text.lowerGiven_eq_nil_iff
  rw [hbare, bare, List.filter_eq_nil_iff]
  simp

/-- There are no words in a name of separators. -/
theorem distinctTokens_of_separators (h : ∀ c ∈ s.toList, isSeparator c) :
    distinctTokens s = [] := by
  have hdividers : ∀ c ∈ s.toList, isDivider c := by
    intro c hc
    rw [isDivider, h c hc, Bool.true_or]
  have hpieces : solidPieces s.toList = [] := by
    rw [← List.append_nil s.toList, solidPieces_append_of_dividers hdividers]
    rfl
  rw [solidPieces] at hpieces
  rw [distinctTokens, tokens, hpieces]
  rfl

end Name

namespace Score

variable {query name : String}

theorem tokenBonus_of_separators (hquery : ∀ c ∈ query.toList, Name.isSeparator c) :
    (tokenBonus query name : Float) = 0.0 := by
  have hfound : wordMatches query name = [] := by
    rw [wordMatches, Name.distinctTokens_of_separators hquery]
    rfl
  rw [tokenBonus, hfound]
  rfl

/-- An empty text is not similar to any other one. -/
theorem jaroWinkler_nil {text : List Char} (htext : text ≠ []) :
    (Similarity.jaroWinkler [] text : Float) = 0.0 := by
  have hjaro : (Similarity.jaro [] text : Float) = 0.0 := by
    rw [Similarity.jaro, if_neg htext.symm]
    rfl
  have hnothing : (0.0 + Arith.ofCount 0 * Similarity.leadWeight * (1.0 - 0.0) : Float) = 0.0 := by
    decide +kernel
  rw [Similarity.jaroWinkler, hjaro, List.take_nil, Similarity.sharedLead]
  · exact hnothing
  · simp

/-- A name of separators scores nothing with a name that has content, but for the penalty. -/
theorem breakdown_of_separators (hquery : ∀ c ∈ query.toList, Name.isSeparator c)
    (hname : Name.normalize name ≠ "") :
    (breakdown query name : Breakdown Float) =
      { base := 0.0, exact := 0.0, containment := 0.0, tokens := 0.0
        penalty := Arith.ofCount (name.length - query.length) * lengthPenalty } := by
  have hempty : (Name.normalize query).toList = [] := by
    rw [Name.normalize_eq_empty_iff.mpr hquery]
    rfl
  have hchars : (Name.normalize name).toList ≠ [] := by
    simpa using hname
  rw [breakdown, hempty, jaroWinkler_nil hchars, if_neg hchars.symm, tokenBonus_of_separators hquery]
  rfl

/-- So its score with such a name is not high enough. -/
theorem not_leastScore_le_composite_of_separators
    (hquery : ∀ c ∈ query.toList, Name.isSeparator c) (hname : Name.normalize name ≠ "") :
    ¬(leastScore : Float) ≤ composite query name := by
  have hgains : (0.0 + 0.0 + 0.0 + 0.0 : Float) = 0.0 := by decide +kernel
  rw [composite, breakdown_of_separators hquery hname, Breakdown.total, hgains]
  intro hclose
  have hnumber := (isNumber_of_sub (double_le_self_right hclose)).2
  have hpenalty : HasPlus (Arith.ofCount (name.length - query.length) * lengthPenalty) :=
    (units_ofNat _).1.mul (.of_pos (by decide)) hnumber
  have hpositive : (0.0 : Float) < leastScore := by decide
  exact not_lt_sub hasPlus_zero hpenalty (double_lt_of_lt_of_le hpositive hclose)

end Score

/-- Nothing is admitted for a name of separators: what has content is not close enough, and what has
none is the name itself in another spelling. -/
theorem Query.not_admits_of_separators {q : Query} (hname : ∀ c ∈ q.name.toList, Name.isSeparator c)
    (c : Candidate) : ¬q.Admits Float c := by
  intro hadmits
  by_cases hkey : Name.normalize c.key = ""
  · refine hadmits.key_ne ?_
    rw [hkey, Name.normalize_eq_empty_iff.mpr hname]
  · exact Score.not_leastScore_le_composite_of_separators hname hkey hadmits.close

/-- For a query of low lines and white space, ranking a pool of candidates succeeds and nothing is
suggested, whatever its usage, what tells symbols apart, and the limit. -/
theorem Query.rankPool_of_separators (q : Query) (workers : Option Int) (pool : List Candidate)
    (hname : ∀ c ∈ q.name.toList, c = '_' ∨ Text.isBlank c) :
    ∃ r : Ranking Float, (q.rankPool workers (pool.map fun c => .ok (.candidate c))).result = .ok r ∧
      r.suggestions = [] := by
  have hseparators : ∀ c ∈ q.name.toList, Name.isSeparator c := by
    intro c hc
    simpa [Name.isSeparator] using hname c hc
  by_cases hempty : q.name = ""
  · rw [q.rankPool_of_empty hempty]
    exact ⟨_, rfl, rfl⟩
  · refine ⟨q.rank pool, q.rankPool_candidates pool hempty workers, ?_⟩
    rw [List.eq_nil_iff_forall_not_mem]
    intro g hg
    obtain ⟨c, -, hadmits, -⟩ := q.exists_admits_of_mem_suggestions pool hg
    exact not_admits_of_separators hseparators c hadmits

/-- Of the keys, the first three have no content either.  A digit is content, although it is no word. -/
theorem rankPool_of_separators_lowLines :
    let q : Query := ⟨"_ _", .unspecified, Symbol.identityKey, none⟩
    let pool := ["", "_", "\u00A0__", "_1_", "_ _x"].map Candidate.ofName
    (∀ c ∈ q.name.toList, c = '_' ∨ Text.isBlank c) ∧
      ∃ r : Ranking Float,
        (q.rankPool none (pool.map fun c => .ok (.candidate c))).result = .ok r ∧
        r.suggestions = [] := by
  intro q pool
  have hname : ∀ c ∈ q.name.toList, c = '_' ∨ Text.isBlank c := by
    have hblank : Text.isBlank ' ' := by decide
    simp [q, hblank]
  exact ⟨hname, q.rankPool_of_separators none pool hname⟩

end DidYouMean
