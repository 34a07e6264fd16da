import DidYouMean.Proofs.Ranking.Suggestions
import DidYouMean.Proofs.Repeats
import DidYouMean.Proofs.Score.DoubleOrder
import DidYouMean.Score.Finder

/-!
# Ranking plain names

Plain names are candidates of one tier, and so all of them gain the same bonus.  Ranking them comes
to searching the flat list of names by similarity alone, once repeats and the name that was asked
for are left out.

## Main definitions

- `nameBoard`: what the board holds after plain names were offered to it

## Main statements

- `foldl_offer_names`: the board after plain names
- `rankPool_names_eq_similarNames`: the ranker and the flat search agree on plain names
-/

namespace DidYouMean

section Board

variable {α : Type} [Arith α] (q : Query)

/-- The names that may be suggested, each once and at its first place in the list. -/
def nameBoard (names : List String) : Board α :=
  (names.eraseDups.filter fun n => q.Admits α (.ofName n)).map
    fun n => (n, q.standing (.ofName n) (names.idxOf n))

theorem admitted_append_singleton (pool : List Candidate) (c : Candidate) :
    (q.admitted (pool ++ [c]) : List (Standing α)) =
      q.admitted pool ++ if q.Admits α c then [q.standing c pool.length] else [] := by
  rw [Query.admitted, Query.admitted, List.zipIdx_append, List.filter_append, List.map_append]
  by_cases hadmits : q.Admits α c <;> simp [hadmits]

/-- A name that was there before is not put on the board again. -/
theorem nameBoard_append_of_mem {names : List String} {n : String} (hmem : n ∈ names) :
    (nameBoard q (names ++ [n]) : Board α) = nameBoard q names := by
  rw [nameBoard, nameBoard, eraseDups_append_singleton, if_pos hmem]
  refine List.map_congr_left fun m hm => ?_
  have hm : m ∈ names := List.mem_eraseDups.mp (List.mem_of_mem_filter hm)
  rw [List.idxOf_append_of_mem hm]

theorem nameBoard_append_of_notMem {names : List String} {n : String} (hmem : n ∉ names) :
    (nameBoard q (names ++ [n]) : Board α) = nameBoard q names ++
      if q.Admits α (.ofName n) then [(n, q.standing (.ofName n) names.length)] else [] := by
  rw [nameBoard, nameBoard, eraseDups_append_singleton, if_neg hmem, List.filter_append,
    List.map_append]
  congr 1
  · refine List.map_congr_left fun m hm => ?_
    have hm : m ∈ names := List.mem_eraseDups.mp (List.mem_of_mem_filter hm)
    rw [List.idxOf_append_of_mem hm]
  · by_cases hadmits : q.Admits α (.ofName n) <;> simp [hadmits, idxOf_append_singleton hmem]

theorem lookup_nameBoard_of_mem {names : List String} {n : String} (hmem : n ∈ names)
    (hadmits : q.Admits α (.ofName n)) :
    (nameBoard q names : Board α).lookup n =
      some (q.standing (.ofName n) (names.idxOf n)) := by
  have hkept : n ∈ names.eraseDups.filter fun n => q.Admits α (.ofName n) :=
    List.mem_filter.mpr ⟨List.mem_eraseDups.mpr hmem, decide_eq_true hadmits⟩
  exact List.lookup_graph _ hkept

theorem lookup_nameBoard_of_notMem {names : List String} {n : String} (hmem : n ∉ names) :
    (nameBoard q names : Board α).lookup n = none := by
  rw [List.lookup_eq_none_iff]
  intro e he
  obtain ⟨m, hm, rfl⟩ := List.mem_map.mp he
  have hm : m ∈ names := List.mem_eraseDups.mp (List.mem_of_mem_filter hm)
  simpa using fun heq : n = m => hmem (heq ▸ hm)

/-- The board holds each plain name once: a repeat has the score of the name before it. -/
theorem foldl_offer_names (hidentity : q.identity = Symbol.identityKey)
    (hirrefl : ∀ x : α, ¬x < x) (names : List String) :
    (q.admitted (names.map Candidate.ofName) : List (Standing α)).foldl Board.offer [] =
      nameBoard q names := by
  induction names using List.reverseRecOn with
  | nil => rfl
  | append_singleton names n ih =>
    have hkey : (q.standing (.ofName n) names.length : Standing α).suggestion.identityKey = n := by
      simp [Query.standing, Query.suggest, hidentity, Candidate.ofName, Symbol.raw,
        Symbol.identityKey]
    rw [List.map_append, List.map_singleton, admitted_append_singleton, List.foldl_append, ih,
      List.length_map]
    -- the last name is only offered if it is admitted, and then it only counts if it is new
    by_cases hadmits : q.Admits α (.ofName n)
    · rw [if_pos hadmits, List.foldl_cons, List.foldl_nil, Board.offer, hkey]
      by_cases hmem : n ∈ names
      · rw [lookup_nameBoard_of_mem q hmem hadmits, nameBoard_append_of_mem q hmem]
        exact if_neg (hirrefl _)
      · rw [lookup_nameBoard_of_notMem q hmem, nameBoard_append_of_notMem q hmem, if_pos hadmits]
    · rw [if_neg hadmits, List.foldl_nil]
      by_cases hmem : n ∈ names
      · rw [nameBoard_append_of_mem q hmem]
      · rw [nameBoard_append_of_notMem q hmem, if_neg hadmits, List.append_nil]

/-- Standings that are in order of similarity wherever they are compared are sorted like scored
names. -/
theorem map_mergeSort_before {standings : List (Standing α)}
    (h : standings.Pairwise fun s t =>
      s.before t = decide (t.suggestion.similarity ≤ s.suggestion.similarity)) :
    (standings.mergeSort Standing.before).map
        (fun s => (s.suggestion.symbol.name, s.suggestion.similarity)) =
      Score.byScore (standings.map
        fun s => (s.suggestion.symbol.name, s.suggestion.similarity)) := by
  rw [Score.byScore]
  exact map_mergeSort_of_pairwise standings h

end Board

section Doubles

/-- Where a bonus does not change the order of two similarities, the earlier of two standings comes
first if and only if its similarity is not lower. -/
theorem before_eq_similarity_le {s t : Standing Float} (horder : s.order ≤ t.order)
    (hs : s.suggestion.similarity ≤ s.suggestion.similarity)
    (ht : t.suggestion.similarity ≤ t.suggestion.similarity)
    (hst : s.suggestion.similarity ≤ t.suggestion.similarity →
      s.suggestion.final ≤ t.suggestion.final)
    (hts : t.suggestion.similarity ≤ s.suggestion.similarity →
      t.suggestion.final ≤ s.suggestion.final) :
    s.before t = decide (t.suggestion.similarity ≤ s.suggestion.similarity) := by
  rw [Bool.eq_iff_iff, Standing.before_iff, decide_eq_true_iff]
  constructor
  · rintro (hfinal | ⟨-, hsim | ⟨hsim, -⟩⟩)
    · by_contra hnot
      have hle := hst (double_le_of_not_le hs ht hnot)
      exact double_not_lt_of_le hle hfinal
    · exact double_le_of_lt hsim
    · exact (double_not_lt_iff hs ht).mp hsim
  · intro hsim
    exact .inr ⟨double_not_lt_of_le (hts hsim), .inr ⟨double_not_lt_of_le hsim, horder⟩⟩

/-- A name that is not well known has the bonus of its tier alone. -/
theorem finalScore_ofName {n : String} (hplain : Name.lastSegment n ∉ wellKnownNames)
    (similarity : Float) :
    finalScore (.ofName n) similarity = similarity + Tier.currentProject.bonus + 0.0 := by
  have hbonus : wellKnownBonus (.raw n) similarity = 0.0 := by
    simp [wellKnownBonus, Symbol.shortName, Symbol.raw, hplain]
  rw [finalScore, Candidate.ofName, hbonus]

theorem tokenBonus_empty (query : String) : (Score.tokenBonus query "" : Float) = 0.0 := by
  have hwords : Name.distinctTokens "" = [] := by rfl
  have hfound : Score.wordMatches query "" = [] := by
    rw [Score.wordMatches, hwords]
    simp
  rw [Score.tokenBonus, hfound]
  rfl

/-- The empty name is not similar to anything. -/
theorem not_leastScore_le_composite_empty {query : String} (hquery : Name.normalize query ≠ "") :
    ¬(Score.leastScore : Float) ≤ Score.composite query "" := by
  have hempty : (Name.normalize "").toList = [] := by decide
  have hchars : (Name.normalize query).toList ≠ [] := by
    simpa using hquery
  have hbase : (Similarity.jaroWinkler (Name.normalize query).toList [] : Float) =
      0.0 + Arith.ofCount 0 * Similarity.leadWeight * (1.0 - 0.0) := by
    simp [Similarity.jaroWinkler, Similarity.jaro, hchars, Similarity.sharedLead]
  have hcontains : Score.contains (Name.normalize query).toList [] = false := by
    simp [Score.contains]
  have hlength : "".length - query.length = 0 := Nat.zero_sub _
  have hscore : (Score.composite query "" : Float) =
      0.0 + Arith.ofCount 0 * Similarity.leadWeight * (1.0 - 0.0) + 0.0 + 0.0 + 0.0 -
        Arith.ofCount 0 * Score.lengthPenalty := by
    rw [Score.composite, Score.Breakdown.total, Score.breakdown, hempty, tokenBonus_empty, hbase,
      if_neg hchars, hcontains, hlength]
    rfl
  rw [hscore]
  decide +kernel

variable {q : Query}

theorem admits_ofName_iff (husage : q.usage = .unspecified)
    (hidentity : q.identity = Symbol.identityKey) (n : String) :
    q.Admits Float (.ofName n) ↔ (Score.leastScore : Float) ≤ Score.composite q.name n ∧
      Name.normalize n ≠ Name.normalize q.name := by
  constructor
  · intro h
    exact ⟨h.close, h.key_ne⟩
  · rintro ⟨hclose, hkey⟩
    refine ⟨?_, hclose, hkey, fun hsame => hkey ?_⟩
    · rw [husage]
      rfl
    · have hname : n = q.name := by
        rw [hidentity] at hsame
        exact hsame
      rw [hname]

/-- The flat search keeps the names that the ranker admits. -/
theorem scored_eq_admitted (husage : q.usage = .unspecified)
    (hidentity : q.identity = Symbol.identityKey) (names : List String) :
    (((names.filter fun n => Name.normalize n ≠ Name.normalize q.name).filter (· ≠ "")).map
      fun n => (n, (Score.composite q.name n : Float))).filter
        (fun e => Score.leastScore ≤ e.2) =
      (names.filter fun n => q.Admits Float (.ofName n)).map
        fun n => (n, Score.composite q.name n) := by
  rw [List.filter_map, List.filter_filter, List.filter_filter]
  refine congrArg _ (List.filter_congr fun n _ => ?_)
  rw [Bool.eq_iff_iff, decide_eq_true_iff, admits_ofName_iff husage hidentity]
  simp only [Function.comp_apply, Bool.and_eq_true, decide_eq_true_eq]
  constructor
  · rintro ⟨⟨hclose, -⟩, hkey⟩
    exact ⟨hclose, hkey⟩
  · rintro ⟨hclose, hkey⟩
    refine ⟨⟨hclose, ?_⟩, hkey⟩
    rintro rfl
    have hquery : Name.normalize q.name ≠ "" := fun hblank => hkey (by rw [hblank]; decide)
    exact not_leastScore_le_composite_empty hquery hclose

/-- Sorting the board of plain names by final score, similarity and place is sorting them by
similarity, as long as the bonus does not change the order of similarities. -/
theorem sorted_nameBoard {names : List String}
    (hmono : ∀ n ∈ names, ∀ m ∈ names,
      (Score.composite q.name n : Float) ≤ Score.composite q.name m →
        finalScore (.ofName n) (Score.composite q.name n : Float) ≤
          finalScore (.ofName m) (Score.composite q.name m)) :
    (Board.sorted (nameBoard q names : Board Float)).map
        (fun s => (s.suggestion.symbol.name, s.suggestion.similarity)) =
      Score.byScore ((names.eraseDups.filter fun n => q.Admits Float (.ofName n)).map
        fun n => (n, Score.composite q.name n)) := by
  have hvalues : (nameBoard q names : Board Float).map (·.2) =
      (names.eraseDups.filter fun n => q.Admits Float (.ofName n)).map
        fun n => q.standing (.ofName n) (names.idxOf n) := by
    rw [nameBoard, List.map_map]
    rfl
  have hpairs : ((names.eraseDups.filter fun n => q.Admits Float (.ofName n)).map
      fun n => (q.standing (.ofName n) (names.idxOf n) : Standing Float)).Pairwise fun s t =>
        s.before t = decide (t.suggestion.similarity ≤ s.suggestion.similarity) := by
    rw [List.pairwise_map]
    refine ((pairwise_idxOf_eraseDups names).filter _).imp_of_mem fun {n m} hn hm hlt => ?_
    obtain ⟨hn, hnclose⟩ := List.mem_filter.mp hn
    obtain ⟨hm, hmclose⟩ := List.mem_filter.mp hm
    have hn := List.mem_eraseDups.mp hn
    have hm := List.mem_eraseDups.mp hm
    -- scores that reach the least score are numbers
    exact before_eq_similarity_le hlt.le (double_le_self_right (of_decide_eq_true hnclose).close)
      (double_le_self_right (of_decide_eq_true hmclose).close) (hmono n hn m hm) (hmono m hm n hn)
  rw [Board.sorted, hvalues, map_mergeSort_before hpairs, List.map_map]
  rfl

/-- On plain names none of which is well known, the ranker gives what the flat search gives on the
names without repeats and without the name that was asked for. -/
theorem rankPool_names_eq_similarNames (query : String) (limit : Limit) (workers : Option Int)
    (names : List String) (hquery : query ≠ "")
    (hplain : ∀ n ∈ names, Name.lastSegment n ∉ wellKnownNames)
    (hadd : ∀ n ∈ names, ∀ m ∈ names,
      (Score.composite query n : Float) ≤ Score.composite query m →
        (Score.composite query n : Float) + Tier.currentProject.bonus + 0.0 ≤
          Score.composite query m + Tier.currentProject.bonus + 0.0) :
    let q : Query := { Query.ofName query with limit }
    let others := names.eraseDups.filter fun n => Name.normalize n ≠ Name.normalize query
    ∃ r : Ranking Float,
      (q.rankPool workers (names.map fun n => .ok (.candidate (.ofName n)))).result = .ok r ∧
      r.suggestions.map (fun s => (s.symbol.name, s.similarity)) =
        Score.similarNames query others limit := by
  intro q others
  have hpool : (names.map fun n => (.ok (.candidate (.ofName n)) : Pull)) =
      (names.map Candidate.ofName).map fun c => .ok (.candidate c) := by
    rw [List.map_map]
    rfl
  have hmono : ∀ n ∈ names, ∀ m ∈ names,
      (Score.composite query n : Float) ≤ Score.composite query m →
        finalScore (.ofName n) (Score.composite query n : Float) ≤
          finalScore (.ofName m) (Score.composite query m) := by
    intro n hn m hm hle
    rw [finalScore_ofName (hplain n hn), finalScore_ofName (hplain m hm)]
    exact hadd n hn m hm hle
  refine ⟨q.rank (names.map Candidate.ofName), ?_, ?_⟩
  · rw [hpool]
    exact q.rankPool_candidates _ hquery workers
  have hkept := scored_eq_admitted (q := q) rfl rfl names.eraseDups
  calc ((q.rank (names.map Candidate.ofName) : Ranking Float).suggestions).map
        (fun s => (s.symbol.name, s.similarity))
      = limit.take ((Board.sorted (nameBoard q names)).map
          fun s => (s.suggestion.symbol.name, s.suggestion.similarity)) := by
        rw [q.suggestions_rank _ hquery, foldl_offer_names q rfl double_lt_irrefl, Limit.map_take,
          List.map_map]
        rfl
    _ = limit.take (Score.byScore ((names.eraseDups.filter fun n => q.Admits Float (.ofName n)).map
          fun n => (n, Score.composite query n))) := by
        exact congrArg limit.take (sorted_nameBoard (q := q) hmono)
    _ = Score.similarNames query others limit := by
        rw [Score.similarNames, Score.best]
        exact congrArg (fun scored => limit.take (Score.byScore scored)) hkept.symm

/-- Among the names are a repeat, one that is the query in another spelling, and an empty one. -/
theorem rankPool_names_eq_similarNames_lenght :
    let query := "lenght"
    let names := ["weight", "length", "Lenght", "", "length", "Length"]
    let q : Query := { Query.ofName query with limit := some 2 }
    let others := names.eraseDups.filter fun n => Name.normalize n ≠ Name.normalize query
    query ≠ "" ∧ (∀ n ∈ names, Name.lastSegment n ∉ wellKnownNames) ∧
      (∀ n ∈ names, ∀ m ∈ names,
        (Score.composite query n : Float) ≤ Score.composite query m →
          (Score.composite query n : Float) + Tier.currentProject.bonus + 0.0 ≤
            Score.composite query m + Tier.currentProject.bonus + 0.0) ∧
      ∃ r : Ranking Float,
        (q.rankPool none (names.map fun n => .ok (.candidate (.ofName n)))).result = .ok r ∧
        r.suggestions.map (fun s => (s.symbol.name, s.similarity)) =
          Score.similarNames query others (some 2) := by
  intro query names q others
  have hquery : query ≠ "" := by decide
  have hplain : ∀ n ∈ names, Name.lastSegment n ∉ wellKnownNames := by decide
  have hadd : ∀ n ∈ names, ∀ m ∈ names,
      (Score.composite query n : Float) ≤ Score.composite query m →
        (Score.composite query n : Float) + Tier.currentProject.bonus + 0.0 ≤
          Score.composite query m + Tier.currentProject.bonus + 0.0 := by
    decide +kernel
  exact ⟨hquery, hplain, hadd,
    rankPool_names_eq_similarNames query (some 2) none names hquery hplain hadd⟩

end Doubles

end DidYouMean
