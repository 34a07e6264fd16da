import DidYouMean.Proofs.Name.Normal
import DidYouMean.Proofs.Ranking.Suggestions

/-!
# Other spellings of the query

A candidate with the normal form of the query is the query itself in another spelling, and so it is
never suggested.  Most spellings that differ in separators alone have one normal form.  Those do not in
which a capital sigma ends a word in one and stands within a word in the other.

## Main definitions

- `NeverSuggested`: candidates with a key make no difference to what is suggested for a name

## Main statements

- `neverSuggested_of_isSelfMatch`: spellings of the query are never suggested
- `spelling_recognised_iff`: when a spelling with other separators is recognised
-/

namespace DidYouMean

variable {α : Type} [Arith α] {name key : String}

/-- Candidates with a key are never suggested for a name.  Every pool of candidates can be ranked, and
what is suggested are candidates with other keys, the same as if those with the key were not there. -/
def NeverSuggested (α : Type) [Arith α] (name key : String) : Prop :=
  ∀ (q : Query) (workers : Option Int) (pool : List Candidate), q.name = name →
    ∃ r r' : Ranking α,
      (q.rankPool workers (pool.map fun c => .ok (.candidate c))).result = .ok r ∧
      (q.rankPool workers ((pool.filter fun c => c.key ≠ key).map
        fun c => .ok (.candidate c))).result = .ok r' ∧
      r.suggestions = r'.suggestions ∧
      ∀ g ∈ r.suggestions, ∃ c ∈ pool, c.key ≠ key ∧
        g = q.suggest c (Score.composite name c.key)

theorem isSelfMatch_iff : Score.isSelfMatch name key ↔ Name.normalize name = Name.normalize key :=
  beq_iff_eq

/-- Spellings of the query are never suggested for it. -/
theorem neverSuggested_of_isSelfMatch (h : Score.isSelfMatch name key) :
    NeverSuggested α name key := by
  rintro q workers pool rfl
  have hother : ∀ c, q.Admits α c → decide (c.key ≠ key) := by
    intro c hc
    refine decide_eq_true fun hkey => hc.key_ne ?_
    rw [hkey]
    exact (isSelfMatch_iff.mp h).symm
  -- an empty query is answered without reading, every other one from the whole pool
  have hread : ∀ candidates : List Candidate, ∃ r : Ranking α,
      (q.rankPool workers (candidates.map fun c => .ok (.candidate c))).result = .ok r ∧
        r.suggestions = (q.rank candidates).suggestions := by
    intro candidates
    by_cases hname : q.name = ""
    · rw [q.rankPool_of_empty hname, Query.rank, if_pos hname]
      exact ⟨_, rfl, rfl⟩
    · exact ⟨_, q.rankPool_candidates candidates hname workers, rfl⟩
  obtain ⟨r, hr, hsuggestions⟩ := hread pool
  obtain ⟨r', hr', hsuggestions'⟩ := hread (pool.filter fun c => c.key ≠ key)
  refine ⟨r, r', hr, hr', ?_, fun g hg => ?_⟩
  · rw [hsuggestions, hsuggestions', q.suggestions_filter pool hother]
  · rw [hsuggestions] at hg
    obtain ⟨c, hc, hadmits, rfl⟩ := q.exists_admits_of_mem_suggestions pool hg
    exact ⟨c, hc, of_decide_eq_true (hother c hadmits), rfl⟩

/-- A spelling that differs from the name in separators alone has the same normal form, and matches
the name, if and only if the same capital sigmas end words in both.  Then it is never suggested. -/
theorem spelling_recognised_iff (h : Name.bare name = Name.bare key) :
    (Name.normalize name = Name.normalize key ↔ Name.sigmaEnds name = Name.sigmaEnds key) ∧
      (Score.isSelfMatch name key ↔ Name.sigmaEnds name = Name.sigmaEnds key) ∧
      (Name.sigmaEnds name = Name.sigmaEnds key → NeverSuggested α name key) := by
  have hnormal := Name.normalize_eq_iff_of_bare_eq h
  have hmatch := isSelfMatch_iff.trans hnormal
  exact ⟨hnormal, hmatch, fun hends => neverSuggested_of_isSelfMatch (hmatch.mpr hends)⟩

/-- A capital sigma ends a word in front of any separator. -/
theorem spelling_recognised_iff_street :
    Name.bare "ΟΔΟΣ_Α" = Name.bare "ΟΔΟΣ  Α" ∧
      Name.normalize "ΟΔΟΣ_Α" = Name.normalize "ΟΔΟΣ  Α" ∧
      Score.isSelfMatch "ΟΔΟΣ_Α" "ΟΔΟΣ  Α" ∧ NeverSuggested Float "ΟΔΟΣ_Α" "ΟΔΟΣ  Α" := by
  have hbare : Name.bare "ΟΔΟΣ_Α" = Name.bare "ΟΔΟΣ  Α" := by decide
  have hends : Name.sigmaEnds "ΟΔΟΣ_Α" = Name.sigmaEnds "ΟΔΟΣ  Α" := by decide +kernel
  obtain ⟨hnormal, hmatch, hnever⟩ := spelling_recognised_iff (α := Float) hbare
  exact ⟨hbare, hnormal.mpr hends, hmatch.mpr hends, hnever hends⟩

/-- Without a separator behind it, the capital sigma stands within a word.  Then the name has another
normal form, and is suggested. -/
theorem not_spelling_recognised :
    Name.bare "ΟΔΟΣ_Α" = Name.bare "ΟΔΟΣΑ" ∧
      Name.normalize "ΟΔΟΣ_Α" ≠ Name.normalize "ΟΔΟΣΑ" ∧
      ¬Score.isSelfMatch "ΟΔΟΣ_Α" "ΟΔΟΣΑ" ∧ ¬NeverSuggested Float "ΟΔΟΣ_Α" "ΟΔΟΣΑ" := by
  have hbare : Name.bare "ΟΔΟΣ_Α" = Name.bare "ΟΔΟΣΑ" := by decide
  have hnormal : Name.normalize "ΟΔΟΣ_Α" ≠ Name.normalize "ΟΔΟΣΑ" := by
    rw [Ne, Name.normalize_eq_iff_of_bare_eq hbare]
    decide +kernel
  refine ⟨hbare, hnormal, fun hmatch => hnormal (isSelfMatch_iff.mp hmatch), fun hnever => ?_⟩
  let q : Query := ⟨"ΟΔΟΣ_Α", .unspecified, Symbol.identityKey, none⟩
  have hname : q.name ≠ "" := by decide
  obtain ⟨r, -, hr, -, -, hothers⟩ := hnever q none [.ofName "ΟΔΟΣΑ"] rfl
  obtain rfl : q.rank [.ofName "ΟΔΟΣΑ"] = r :=
    Except.ok.inj ((q.rankPool_candidates _ hname none).symm.trans hr)
  have hfound : (q.rank [.ofName "ΟΔΟΣΑ"] : Ranking Float).suggestions.length = 1 := by
    have hboard : ((q.admitted [.ofName "ΟΔΟΣΑ"] : List (Standing Float)).foldl
        Board.offer []).length = 1 := by
      decide +kernel
    rw [q.suggestions_rank _ hname, Limit.take, List.length_map, Board.sorted,
      List.length_mergeSort, List.length_map, hboard]
  obtain ⟨g, hg⟩ := List.exists_mem_of_length_pos (hfound ▸ Nat.one_pos)
  obtain ⟨c, hc, hkey, -⟩ := hothers g hg
  exact hkey (congrArg Candidate.key (List.mem_singleton.mp hc))

end DidYouMean
