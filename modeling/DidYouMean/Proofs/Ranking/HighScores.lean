import DidYouMean.Proofs.Ranking.Suggestions
import DidYouMean.Proofs.Score.DoubleSign

/-!
# High scores

The final scores of a ranking are the highest ones of the identities that are seen, in descending
order.  Which candidate reaches a high score and where it stands in the pool has no part in this, and
so the final scores do not depend on the order of the pool.

## Main definitions

- `IsHighScores`: a list has each identity of some entries with its highest score
- `highScores`, `descending`: such a list, and scores in descending order

## Main statements

- `IsHighScores.perm`: the high scores of some entries are unique up to order
- `Query.exists_highScores`: what a query suggests are high scores
- `Query.linear_admitted`: as doubles, all scores that matter are in a row
- `Query.finals_rankPool_of_perm`: pools that differ in their order give the same final scores
-/

namespace DidYouMean

variable {α : Type} [Arith α]

/-- The list has each identity of the entries once and with its highest score. -/
structure IsHighScores (entries table : List (String × α)) : Prop where
  mem : ∀ e ∈ table, e ∈ entries
  highest : ∀ e ∈ table, ∀ e' ∈ entries, e'.1 = e.1 → ¬e.2 < e'.2
  covers : ∀ e ∈ entries, ∃ e' ∈ table, e'.1 = e.1
  distinct : table.Pairwise fun e e' => e.1 ≠ e'.1

/-- The highest of some scores. -/
def highest? : List α → Option α
  | [] => none
  | x :: rest =>
    match highest? rest with
    | none => some x
    | some y => if x < y then some y else some x

/-- The scores of an identity. -/
def scoresOf (key : String) (entries : List (String × α)) : List α :=
  (entries.filter (·.1 == key)).map (·.2)

/-- The identities of the entries, each with its highest score. -/
def highScores (entries : List (String × α)) : List (String × α) :=
  (entries.map (·.1)).dedup.filterMap fun key =>
    (highest? (scoresOf key entries)).map fun score => (key, score)

/-- Scores in descending order. -/
def descending (scores : List α) : List α :=
  scores.mergeSort fun x y => !decide (x < y)

section Scores

variable {scores other : List α} {x : α}

theorem highest?_eq_none_iff : highest? scores = none ↔ scores = [] := by
  cases scores with
  | nil => simp [highest?]
  | cons x rest =>
    rw [highest?]
    cases highest? rest with
    | none => simp
    | some y => by_cases hlt : x < y <;> simp [hlt]

theorem highest?_mem (h : highest? scores = some x) : x ∈ scores := by
  induction scores generalizing x with
  | nil => cases h
  | cons y rest ih =>
    rw [highest?] at h
    cases hrest : highest? rest with
    | none =>
      rw [hrest] at h
      cases h
      exact List.mem_cons_self
    | some z =>
      rw [hrest] at h
      dsimp only at h
      split at h
      · cases h
        exact List.mem_cons_of_mem y (ih hrest)
      · cases h
        exact List.mem_cons_self

theorem not_lt_of_highest? (ord : Comparable scores) (h : highest? scores = some x) :
    ∀ y ∈ scores, ¬x < y := by
  induction scores generalizing x with
  | nil => cases h
  | cons y rest ih =>
    have hmono : Comparable rest := ord.mono fun a ha => List.mem_cons_of_mem y ha
    have hy : y ∈ y :: rest := List.mem_cons_self
    intro z hz
    rw [highest?] at h
    cases hrest : highest? rest with
    | none =>
      rw [hrest] at h
      cases h
      obtain rfl := highest?_eq_none_iff.mp hrest
      rw [List.mem_singleton.mp hz]
      exact ord.irrefl hy
    | some best =>
      have hbest : best ∈ y :: rest := List.mem_cons_of_mem y (highest?_mem hrest)
      have hrest' := ih hmono hrest
      rw [hrest] at h
      dsimp only at h
      split at h
      · next hlt =>
        rw [← Option.some.inj h]
        rcases List.mem_cons.mp hz with rfl | hmem
        · exact ord.asymm z hz best hbest hlt
        · exact hrest' z hmem
      · next hnot =>
        rw [← Option.some.inj h]
        rcases List.mem_cons.mp hz with rfl | hmem
        · exact ord.irrefl hz
        · exact ord.negTrans y hy best hbest z hz hnot (hrest' z hmem)

/-- Sorted lists of the same scores are the same. -/
theorem eq_of_perm_of_pairwise (ord : Linear scores) (hperm : scores.Perm other)
    (hscores : scores.Pairwise fun x y => ¬x < y) (hother : other.Pairwise fun x y => ¬x < y) :
    scores = other := by
  refine hperm.eq_of_pairwise (fun x y hx hy hxy hyx => ?_) hscores hother
  exact ord.eq_of_not_lt x hx y (hperm.mem_iff.mpr hy) hxy hyx

theorem pairwise_descending (ord : Comparable scores) :
    (descending scores).Pairwise fun x y => ¬x < y := by
  have hsorted : (descending scores).Pairwise fun x y => (!decide (x < y)) = true := by
    refine pairwise_mergeSort_of_mem ?_ ?_
    · intro x hx y hy z hz hxy hyz
      simp only [Bool.not_eq_true', decide_eq_false_iff_not] at hxy hyz ⊢
      exact ord.negTrans x hx y hy z hz hxy hyz
    · intro x hx y hy
      simp only [Bool.not_eq_true', decide_eq_false_iff_not]
      by_cases hxy : x < y
      · exact .inr (ord.asymm x hx y hy hxy)
      · exact .inl hxy
  exact hsorted.imp fun h => by simpa using h

end Scores

section Tables

variable {entries other table table' : List (String × α)}

omit [Arith α] in
theorem mem_scoresOf_iff {key : String} {score : α} :
    score ∈ scoresOf key entries ↔ (key, score) ∈ entries := by
  simp only [scoresOf, List.mem_map, List.mem_filter, beq_iff_eq, Prod.exists]
  constructor
  · rintro ⟨k, x, ⟨hmem, rfl⟩, rfl⟩
    exact hmem
  · intro hmem
    exact ⟨key, score, ⟨hmem, rfl⟩, rfl⟩

theorem mem_highScores_iff {e : String × α} :
    e ∈ highScores entries ↔ highest? (scoresOf e.1 entries) = some e.2 := by
  obtain ⟨key, score⟩ := e
  simp only [highScores, List.mem_filterMap, List.mem_dedup, Option.map_eq_some_iff,
    Prod.mk.injEq]
  constructor
  · rintro ⟨k, -, x, hx, rfl, rfl⟩
    exact hx
  · intro hx
    have hmem := mem_scoresOf_iff.mp (highest?_mem hx)
    exact ⟨key, List.mem_map_of_mem hmem, score, hx, rfl, rfl⟩

theorem isHighScores_highScores (ord : Comparable (entries.map (·.2))) :
    IsHighScores entries (highScores entries) where
  mem e he := mem_scoresOf_iff.mp (highest?_mem (mem_highScores_iff.mp he))
  highest e he e' he' hkey := by
    have hord : Comparable (scoresOf e.1 entries) := by
      refine ord.mono fun x hx => ?_
      exact List.mem_map_of_mem (mem_scoresOf_iff.mp hx)
    have hmem : e'.2 ∈ scoresOf e.1 entries := by
      rw [mem_scoresOf_iff, ← hkey]
      exact he'
    exact not_lt_of_highest? hord (mem_highScores_iff.mp he) e'.2 hmem
  covers e he := by
    have hne : highest? (scoresOf e.1 entries) ≠ none := by
      rw [Ne, highest?_eq_none_iff]
      exact List.ne_nil_of_mem (mem_scoresOf_iff.mpr he)
    obtain ⟨x, hx⟩ := Option.ne_none_iff_exists'.mp hne
    exact ⟨(e.1, x), mem_highScores_iff.mpr hx, rfl⟩
  distinct := by
    rw [highScores, List.pairwise_filterMap]
    refine (List.nodup_dedup (entries.map (·.1))).imp ?_
    intro k k' hne e he e' he'
    obtain ⟨x, -, rfl⟩ := Option.map_eq_some_iff.mp he
    obtain ⟨x', -, rfl⟩ := Option.map_eq_some_iff.mp he'
    exact hne

namespace IsHighScores

/-- Which entries there are decides, not how often and in which order. -/
theorem congr (h : IsHighScores entries table) (hsame : ∀ e, e ∈ entries ↔ e ∈ other) :
    IsHighScores other table where
  mem e he := (hsame e).mp (h.mem e he)
  highest e he e' he' := h.highest e he e' ((hsame e').mpr he')
  covers e he := h.covers e ((hsame e).mpr he)
  distinct := h.distinct

theorem nodup (h : IsHighScores entries table) : table.Nodup :=
  h.distinct.imp fun hne heq => hne (congrArg Prod.fst heq)

theorem mem_of_mem (ord : Linear (entries.map (·.2))) (h : IsHighScores entries table)
    (h' : IsHighScores entries table') {e : String × α} (he : e ∈ table) : e ∈ table' := by
  obtain ⟨e', he', hkey⟩ := h'.covers e (h.mem e he)
  have hscore : e.2 = e'.2 := by
    refine ord.eq_of_not_lt e.2 (List.mem_map_of_mem (h.mem e he)) e'.2
      (List.mem_map_of_mem (h'.mem e' he')) ?_ ?_
    · exact h.highest e he e' (h'.mem e' he') hkey
    · exact h'.highest e' he' e (h.mem e he) hkey.symm
  rw [Prod.ext hkey.symm hscore]
  exact he'

/-- The high scores of some entries are unique up to order. -/
theorem perm (ord : Linear (entries.map (·.2))) (h : IsHighScores entries table)
    (h' : IsHighScores entries table') : table.Perm table' := by
  rw [List.perm_ext_iff_of_nodup h.nodup h'.nodup]
  intro e
  exact ⟨h.mem_of_mem ord h', h'.mem_of_mem ord h⟩

/-- The high scores of some entries, in descending order, are unique. -/
theorem scores_eq (ord : Linear (entries.map (·.2))) (h : IsHighScores entries table)
    (h' : IsHighScores entries table') (hsorted : (table.map (·.2)).Pairwise fun x y => ¬x < y)
    (hsorted' : (table'.map (·.2)).Pairwise fun x y => ¬x < y) :
    table.map (·.2) = table'.map (·.2) := by
  have hord : Linear (table.map (·.2)) := by
    refine ord.mono fun x hx => ?_
    obtain ⟨e, he, rfl⟩ := List.mem_map.mp hx
    exact List.mem_map_of_mem (h.mem e he)
  exact eq_of_perm_of_pairwise hord ((h.perm ord h').map (·.2)) hsorted hsorted'

end IsHighScores

end Tables

/-- The identity of a suggestion with its final score. -/
def Suggestion.entry (s : Suggestion α) : String × α :=
  (s.identityKey, s.final)

omit [Arith α] in
theorem map_final_eq (suggestions : List (Suggestion α)) :
    suggestions.map (·.final) = (suggestions.map (·.entry)).map (·.2) := by
  rw [List.map_map]
  rfl

section Rankings

variable {seen ranked : List (Standing α)}

theorem IsRanking.isHighScores (h : IsRanking seen ranked) :
    IsHighScores (seen.map (·.suggestion.entry)) (ranked.map (·.suggestion.entry)) where
  mem e he := by
    obtain ⟨s, hs, rfl⟩ := List.mem_map.mp he
    exact List.mem_map_of_mem (h.leads s hs).mem
  highest e he e' he' hkey := by
    obtain ⟨s, hs, rfl⟩ := List.mem_map.mp he
    obtain ⟨t, ht, rfl⟩ := List.mem_map.mp he'
    exact (h.leads s hs).highest t ht hkey
  covers e he := by
    obtain ⟨t, ht, rfl⟩ := List.mem_map.mp he
    obtain ⟨s, hs, hkey⟩ := h.covers t ht
    exact ⟨s.suggestion.entry, List.mem_map_of_mem hs, hkey⟩
  distinct := List.pairwise_map.mpr h.distinct

/-- The final scores of a ranking are in descending order. -/
theorem IsRanking.pairwise_final (h : IsRanking seen ranked)
    (ord : Comparable (seen.map (·.suggestion.final))) :
    (ranked.map (·.suggestion.final)).Pairwise fun x y => ¬x < y := by
  rw [List.pairwise_map]
  refine h.sorted.imp_of_mem fun {s t} hs ht hst => ?_
  rcases hst with hlt | ⟨hnot, -⟩
  · exact ord.asymm _ (List.mem_map_of_mem (h.leads t ht).mem) _
      (List.mem_map_of_mem (h.leads s hs).mem) hlt
  · exact hnot

end Rankings

section Pools

variable (q : Query)

/-- The identities and final scores of the candidates that are admitted. -/
def Query.entries (α : Type) [Arith α] (q : Query) (pool : List Candidate) : List (String × α) :=
  (q.admitted pool : List (Standing α)).map (·.suggestion.entry)

/-- Entries have no places. -/
theorem Query.entries_eq (pool : List Candidate) :
    q.entries α pool = (pool.filter fun c => q.Admits α c).map fun c =>
      (q.suggest c (Score.composite q.name c.key : α)).entry := by
  have hplaces : pool.zipIdx.map Prod.fst = pool := List.zipIdx_map_fst 0 pool
  conv_rhs => rw [← hplaces, List.filter_map, List.map_map]
  rw [entries, admitted, List.map_map]
  rfl

/-- What a query suggests are the high scores of the entries, in descending order and cut off at the
limit. -/
theorem Query.exists_highScores (pool : List Candidate) (hname : q.name ≠ "")
    (ord : Comparable (comparedScores (q.admitted pool : List (Standing α)))) :
    ∃ table : List (String × α), IsHighScores (q.entries α pool) table ∧
      (table.map (·.2)).Pairwise (fun x y => ¬x < y) ∧
      (q.rank pool).suggestions.map (·.entry) = q.limit.take table := by
  obtain ⟨ranked, hranked, hsuggestions⟩ := q.exists_isRanking pool hname ord
  have htable : IsHighScores (q.entries α pool) (ranked.map (·.suggestion.entry)) :=
    hranked.isHighScores
  refine ⟨_, htable, ?_, ?_⟩
  · have hsorted := hranked.pairwise_final ord.finals
    rw [List.map_map]
    exact hsorted
  · rw [hsuggestions, Limit.map_take, List.map_map]
    rfl

end Pools

section Doubles

variable (q : Query) {pool pool' : List Candidate}

/-- The scores of the candidates admitted are not lower than the least score, or sums of such scores
and bonuses. -/
theorem Query.hasPlus_of_mem_comparedScores {x : Float}
    (hx : x ∈ comparedScores (q.admitted pool : List (Standing Float))) : HasPlus x := by
  obtain ⟨s, hs, hx⟩ := List.mem_flatMap.mp hx
  obtain ⟨e, he, rfl⟩ := List.mem_map.mp hs
  have hadmits : q.Admits Float e.1 := of_decide_eq_true (List.mem_filter.mp he).2
  rcases List.mem_cons.mp hx with rfl | hx
  · exact hasPlus_of_leastScore_le hadmits.close
  · rw [List.mem_singleton.mp hx]
    exact hasPlus_finalScore hadmits.close

theorem Query.linear_admitted (pool : List Candidate) :
    Linear (comparedScores (q.admitted pool : List (Standing Float))) :=
  linear_of_hasPlus fun _ hx => q.hasPlus_of_mem_comparedScores hx

theorem Query.linear_entries (pool : List Candidate) :
    Linear ((q.entries Float pool).map (·.2)) := by
  refine (q.linear_admitted pool).mono fun x hx => ?_
  rw [entries, List.map_map] at hx
  obtain ⟨s, hs, rfl⟩ := List.mem_map.mp hx
  exact final_mem_comparedScores hs

/-- Pools that differ in their order give the same final scores, and the same identities if there is
no limit. -/
theorem Query.finals_rankPool_of_perm (workers : Option Int) (hperm : pool.Perm pool') :
    ∃ r r' : Ranking Float,
      (q.rankPool workers (pool.map fun c => .ok (.candidate c))).result = .ok r ∧
      (q.rankPool workers (pool'.map fun c => .ok (.candidate c))).result = .ok r' ∧
      r.suggestions.map (·.final) = r'.suggestions.map (·.final) ∧
      (q.limit = none → ∀ key, key ∈ r.suggestions.map (·.identityKey) ↔
        key ∈ r'.suggestions.map (·.identityKey)) := by
  by_cases hname : q.name = ""
  · refine ⟨⟨[], 0, 0, 0⟩, ⟨[], 0, 0, 0⟩, ?_, ?_, rfl, fun _ _ => Iff.rfl⟩
    · rw [q.rankPool_of_empty hname]
    · rw [q.rankPool_of_empty hname]
  obtain ⟨table, htable, hsorted, hentries⟩ :=
    q.exists_highScores pool hname (q.linear_admitted pool).toComparable
  obtain ⟨table', htable', hsorted', hentries'⟩ :=
    q.exists_highScores pool' hname (q.linear_admitted pool').toComparable
  have hsame : (q.entries Float pool').Perm (q.entries Float pool) := by
    rw [q.entries_eq, q.entries_eq]
    exact (hperm.symm.filter _).map _
  have hboth : IsHighScores (q.entries Float pool) table' := htable'.congr fun e => hsame.mem_iff
  have ord := q.linear_entries pool
  refine ⟨q.rank pool, q.rank pool', q.rankPool_candidates pool hname workers,
    q.rankPool_candidates pool' hname workers, ?_, ?_⟩
  · have hscores := htable.scores_eq ord hboth hsorted hsorted'
    calc (q.rank pool).suggestions.map (·.final)
        = q.limit.take (table.map (·.2)) := by rw [map_final_eq, hentries, Limit.map_take]
      _ = q.limit.take (table'.map (·.2)) := by rw [hscores]
      _ = (q.rank pool').suggestions.map (·.final) := by
          rw [map_final_eq, hentries', Limit.map_take]
  · intro hlimit key
    have hkeys : ((q.rank pool).suggestions.map (·.entry)).Perm
        ((q.rank pool').suggestions.map (·.entry) : List (String × Float)) := by
      rw [hentries, hentries', hlimit]
      exact htable.perm ord hboth
    have hmem := (hkeys.map (·.1)).mem_iff (a := key)
    rw [List.map_map, List.map_map] at hmem
    exact hmem

/-- Two candidates of one identity tie, and so each of the two pools suggests another one. -/
theorem finals_rankPool_of_perm_lenght :
    let q : Query := ⟨"lenght", .unspecified, Symbol.identityKey, none⟩
    let pool : List Candidate := [⟨"length", .raw "length", .localScope⟩,
      ⟨"Length", .raw "length", .localScope⟩, .ofName "weight"]
    let pool' : List Candidate := [.ofName "weight", ⟨"Length", .raw "length", .localScope⟩,
      ⟨"length", .raw "length", .localScope⟩]
    pool.Perm pool' ∧ ∃ r r' : Ranking Float,
      (q.rankPool none (pool.map fun c => .ok (.candidate c))).result = .ok r ∧
      (q.rankPool none (pool'.map fun c => .ok (.candidate c))).result = .ok r' ∧
      r.suggestions.map (·.final) = r'.suggestions.map (·.final) ∧
      ∀ key, key ∈ r.suggestions.map (·.identityKey) ↔
        key ∈ r'.suggestions.map (·.identityKey) := by
  intro q pool pool'
  have hperm : pool.Perm pool' := by decide
  obtain ⟨r, r', hr, hr', hfinals, hkeys⟩ := q.finals_rankPool_of_perm none hperm
  exact ⟨hperm, r, r', hr, hr', hfinals, hkeys rfl⟩

end Doubles

end DidYouMean
