import DidYouMean.Proofs.Ranking.Selection
import DidYouMean.Ranking.Basic

/-!
# The suggestions for a query

What a query suggests from a pool of candidates is the ranking of those that it admits, cut off at
the limit.

## Main definitions

- `Query.Admits`: a candidate may be suggested
- `Query.admitted`: the candidates of a pool that may be, as standings

## Main statements

- `Query.suggestions_filter`: what cannot be admitted may as well be missing from the pool
- `Query.exists_isRanking`: the suggestions are the ranking of the candidates admitted, cut off
- `Query.rankPool_eq_slice_of_ranking`: the same for a pool that is still to be read

## Design notes

The ranker numbers the candidates that fit the usage, and so it leaves no gaps.  A ranking is about
places in the pool.  Both numberings order standings alike, and nothing else depends on them.
-/

namespace DidYouMean

variable {α : Type} [Arith α]

/-- A candidate may be suggested: it fits the usage, its score is high enough, and it is not what
was asked for. -/
structure Query.Admits (α : Type) [Arith α] (q : Query) (c : Candidate) : Prop where
  fits : q.usage.admits c.symbol
  close : (Score.leastScore : α) ≤ Score.composite q.name c.key
  key_ne : Name.normalize c.key ≠ Name.normalize q.name
  identity_ne : q.identity c.symbol ≠ q.name

theorem Query.admits_iff (q : Query) (c : Candidate) : q.Admits α c ↔
    (q.usage.admits c.symbol &&
      ((Score.leastScore : α) ≤ Score.composite q.name c.key && !q.isSelf c)) = true := by
  simp only [isSelf, Score.isSelfMatch, Bool.and_eq_true, decide_eq_true_eq, Bool.not_eq_true',
    Bool.or_eq_false_iff, beq_eq_false_iff_ne]
  exact ⟨fun h => ⟨h.fits, h.close, h.key_ne.symm, h.identity_ne⟩,
    fun ⟨hfits, hclose, hkey, hid⟩ => ⟨hfits, hclose, hkey.symm, hid⟩⟩

instance (q : Query) : DecidablePred (q.Admits α) :=
  fun c => decidable_of_iff _ (q.admits_iff c).symm

/-- A candidate as a standing at a place of the pool. -/
def Query.standing (q : Query) (c : Candidate) (place : Nat) : Standing α :=
  ⟨place, q.suggest c (Score.composite q.name c.key)⟩

/-- The candidates of a pool that may be suggested, each at its place in the pool. -/
def Query.admitted (q : Query) (pool : List Candidate) : List (Standing α) :=
  (pool.zipIdx.filter fun e => q.Admits α e.1).map fun e => q.standing e.1 e.2

/-- The standing at another place. -/
def Standing.moveTo (place : Nat → Nat) (s : Standing α) : Standing α :=
  { s with order := place s.order }

section Places

variable {place : Nat → Nat}

omit [Arith α] in
theorem lookup_map_moveTo (place : Nat → Nat) (board : Board α) (k : String) :
    (board.map fun e => (e.1, e.2.moveTo place)).lookup k =
      (board.lookup k).map (·.moveTo place) := by
  induction board with
  | nil => rfl
  | cons e board ih =>
    rw [List.map_cons, List.lookup_cons, List.lookup_cons, ih]
    split <;> rfl

omit [Arith α] in
theorem replace_map_moveTo (board : Board α) (s : Standing α) :
    Board.replace (board.map fun e => (e.1, e.2.moveTo place)) (s.moveTo place) =
      (board.replace s).map fun e => (e.1, e.2.moveTo place) := by
  rw [Board.replace, Board.replace, List.map_map, List.map_map]
  refine List.map_congr_left fun e _ => ?_
  by_cases hk : e.1 = s.suggestion.identityKey <;> simp [hk, Standing.moveTo]

/-- The board does not look at places. -/
theorem offer_map_moveTo (board : Board α) (s : Standing α) :
    Board.offer (board.map fun e => (e.1, e.2.moveTo place)) (s.moveTo place) =
      (board.offer s).map fun e => (e.1, e.2.moveTo place) := by
  have hlook := lookup_map_moveTo place board s.suggestion.identityKey
  rw [Board.offer, Board.offer, show (s.moveTo place).suggestion = s.suggestion from rfl, hlook]
  cases board.lookup s.suggestion.identityKey with
  | none => simp [Standing.moveTo]
  | some old =>
    by_cases hlt : old.suggestion.final < s.suggestion.final
    · simp only [Option.map_some, Standing.moveTo, hlt, if_true]
      exact replace_map_moveTo board s
    · simp only [Option.map_some, Standing.moveTo, hlt, if_false]

theorem foldl_offer_map_moveTo (seen : List (Standing α)) (place : Nat → Nat) :
    (seen.map (·.moveTo place)).foldl Board.offer [] =
      (seen.foldl Board.offer []).map fun e => (e.1, e.2.moveTo place) := by
  induction seen using List.reverseRecOn with
  | nil => rfl
  | append_singleton seen s ih =>
    rw [List.map_append, List.foldl_append, List.foldl_append, ih]
    exact offer_map_moveTo _ s

/-- Places that are in the same order give the same suggestions. -/
theorem map_suggestion_sorted_moveTo (board : Board α)
    (hmono : ∀ s ∈ board.map (·.2), ∀ t ∈ board.map (·.2),
      (place s.order ≤ place t.order ↔ s.order ≤ t.order)) :
    (Board.sorted (board.map fun e => (e.1, e.2.moveTo place))).map (·.suggestion) =
      board.sorted.map (·.suggestion) := by
  have hvalues : (board.map fun e => (e.1, e.2.moveTo place)).map (·.2) =
      (board.map (·.2)).map (·.moveTo place) := by
    simp only [List.map_map, Function.comp_def]
  have hbefore : ∀ s ∈ board.map (·.2), ∀ t ∈ board.map (·.2),
      s.before t = (s.moveTo place).before (t.moveTo place) := by
    intro s hs t ht
    rw [Bool.eq_iff_iff, Standing.before_iff, Standing.before_iff]
    simp only [Standing.moveTo, hmono s hs t ht]
  rw [Board.sorted, Board.sorted, hvalues, ← List.map_mergeSort hbefore, List.map_map]
  rfl

end Places

section Eligible

variable {β : Type} (p : β → Bool)

/-- The number of an entry among those of its kind is the number of these before it. -/
theorem zipIdx_filter (xs : List β) (n m : Nat) : (xs.filter p).zipIdx n =
    ((xs.zipIdx m).filter fun e => p e.1).map
      fun e => (e.1, n + (xs.take (e.2 - m)).countP p) := by
  induction xs generalizing n m with
  | nil => rfl
  | cons x xs ih =>
    have hrest : ∀ e ∈ (xs.zipIdx (m + 1)).filter fun e => p e.1,
        (x :: xs).take (e.2 - m) = x :: xs.take (e.2 - (m + 1)) := by
      intro e he
      have hle : m + 1 ≤ e.2 := List.le_snd_of_mem_zipIdx (List.mem_of_mem_filter he)
      rw [show e.2 - m = e.2 - (m + 1) + 1 by omega, List.take_succ_cons]
    cases hx : p x with
    | true =>
      rw [List.filter_cons_of_pos hx, List.zipIdx_cons, List.zipIdx_cons,
        List.filter_cons_of_pos (by simpa using hx), List.map_cons, ih (n + 1) (m + 1)]
      simp only [Nat.sub_self, List.take_zero, List.countP_nil, Nat.add_zero]
      refine congrArg _ (List.map_congr_left fun e he => ?_)
      rw [hrest e he, List.countP_cons_of_pos hx]
      simp only [Prod.mk.injEq, true_and]
      omega
    | false =>
      rw [List.filter_cons_of_neg (by simp [hx]), List.zipIdx_cons,
        List.filter_cons_of_neg (by simp [hx]), ih n (m + 1)]
      refine List.map_congr_left fun e he => ?_
      rw [hrest e he, List.countP_cons_of_neg (by simp [hx])]

/-- Later entries of a kind have higher numbers among those of the kind. -/
theorem countP_take_lt {xs : List β} {i j : Nat} {x : β} (hx : xs[i]? = some x) (hp : p x)
    (hij : i < j) : (xs.take i).countP p < (xs.take j).countP p := by
  have hstep : (xs.take (i + 1)).countP p = (xs.take i).countP p + 1 := by
    rw [List.take_add_one, hx, List.countP_append]
    simp [hp]
  have hle : (xs.take (i + 1)).countP p ≤ (xs.take j).countP p :=
    (List.take_sublist_take_left (by omega)).countP_le
  omega

end Eligible

section Pool

variable (q : Query) (pool : List Candidate)

/-- How many candidates before a place of the pool fit the usage. -/
def Query.fittingBefore (place : Nat) : Nat :=
  (pool.take place).countP fun c => q.usage.admits c.symbol

/-- The ranker's standings are the candidates admitted, numbered without gaps. -/
theorem Query.standings_eq_map_admitted :
    q.standings ((pool.filter fun c => q.usage.admits c.symbol).map
      fun c => (c, (Score.composite q.name c.key : α))) =
      (q.admitted pool).map (·.moveTo (q.fittingBefore pool)) := by
  rw [standings, List.zipIdx_map, zipIdx_filter _ _ 0 0, admitted]
  simp only [List.filter_map, List.map_map, List.filter_filter]
  -- the ranker tests the usage before anything else, and numbers what fits it
  have hfilter : (pool.zipIdx.filter fun e => decide (q.Admits α e.1)) =
      pool.zipIdx.filter fun e => ((Score.leastScore : α) ≤ Score.composite q.name e.1.key &&
        !q.isSelf e.1) && q.usage.admits e.1.symbol := by
    refine List.filter_congr fun e _ => ?_
    rw [Bool.eq_iff_iff, decide_eq_true_eq, q.admits_iff, Bool.and_comm]
  rw [hfilter]
  refine List.map_congr_left fun e _ => ?_
  simp [Standing.moveTo, standing, fittingBefore]

theorem Query.pairwise_order_admitted :
    (q.admitted pool : List (Standing α)).Pairwise fun s t => s.order < t.order := by
  rw [admitted, List.pairwise_map]
  exact (pairwise_snd_zipIdx pool).filter _

/-- Numbering the candidates of a kind that has all that are admitted keeps these in order. -/
theorem Query.countP_take_le_iff {p : Candidate → Bool} (hp : ∀ c, q.Admits α c → p c)
    {s t : Standing α} (hs : s ∈ q.admitted pool) (ht : t ∈ q.admitted pool) :
    (pool.take s.order).countP p ≤ (pool.take t.order).countP p ↔ s.order ≤ t.order := by
  have hlt : ∀ u ∈ (q.admitted pool : List (Standing α)), ∀ place, u.order < place →
      (pool.take u.order).countP p < (pool.take place).countP p := by
    intro u hu place hplace
    obtain ⟨e, he, rfl⟩ := List.mem_map.mp hu
    obtain ⟨hmem, hadmits⟩ := List.mem_filter.mp he
    exact countP_take_lt _ (List.mem_zipIdx_iff_getElem?.mp hmem)
      (hp _ (of_decide_eq_true hadmits)) hplace
  constructor
  · intro hle
    by_contra hnot
    exact Nat.not_le_of_lt (hlt t ht s.order (Nat.lt_of_not_le hnot)) hle
  · intro hle
    rcases Nat.eq_or_lt_of_le hle with heq | hlt'
    · exact Nat.le_of_eq (congrArg (fun place => (pool.take place).countP p) heq)
    · exact Nat.le_of_lt (hlt s hs t.order hlt')

/-- What is on the board was admitted. -/
theorem Query.mem_admitted_of_mem_board {s : Standing α}
    (hs : s ∈ ((q.admitted pool : List (Standing α)).foldl Board.offer []).map (·.2)) :
    s ∈ q.admitted pool := by
  obtain ⟨e, he, rfl⟩ := List.mem_map.mp hs
  exact Board.mem_of_mem_foldl_offer he

/-- What a query suggests from a pool. -/
theorem Query.suggestions_rank (hname : q.name ≠ "") :
    (q.rank pool : Ranking α).suggestions =
      q.limit.take ((Board.sorted ((q.admitted pool).foldl Board.offer [])).map
        (·.suggestion)) := by
  -- neither the board nor the suggestions depend on how places are numbered
  rw [rank, if_neg hname, rankEligible, q.standings_eq_map_admitted]
  rw [foldl_offer_map_moveTo, Board.ranked_eq_map_sorted, map_suggestion_sorted_moveTo]
  exact fun s hs t ht => q.countP_take_le_iff pool (fun c h => h.fits)
    (q.mem_admitted_of_mem_board pool hs) (q.mem_admitted_of_mem_board pool ht)

/-- A board that is in order as it is holds the suggestions, and what there is to tell of them. -/
theorem Query.map_suggestions_rank {β : Type} (hname : q.name ≠ "") (f : Suggestion α → β)
    (told : List β) {board : Board α} (hboard : (q.admitted pool).foldl Board.offer [] = board)
    (hpairs : (board.map (·.2)).Pairwise fun s t => s.before t)
    (htold : board.map (f ·.2.suggestion) = told) :
    (q.rank pool : Ranking α).suggestions.map f = q.limit.take told := by
  rw [q.suggestions_rank pool hname, hboard, Board.sorted, List.mergeSort_of_pairwise hpairs,
    Limit.map_take, List.map_map, List.map_map, ← htold]
  rfl

/-- Candidates left out of a pool move those behind them to the front. -/
theorem Query.admitted_filter {p : Candidate → Bool} (hp : ∀ c, q.Admits α c → p c) :
    (q.admitted (pool.filter p) : List (Standing α)) =
      (q.admitted pool).map (·.moveTo fun place => (pool.take place).countP p) := by
  have hboth : ∀ e : Candidate × Nat,
      (decide (q.Admits α e.1) && p e.1) = decide (q.Admits α e.1) := by
    intro e
    by_cases h : q.Admits α e.1
    · simp [h, hp e.1 h]
    · simp [h]
  rw [admitted, zipIdx_filter p pool 0 0, List.filter_map, List.filter_filter, List.map_map, admitted,
    List.map_map]
  simp only [Function.comp_apply, hboth]
  refine List.map_congr_left fun e _ => ?_
  simp [Standing.moveTo, standing]

/-- Candidates that cannot be admitted may be left out of a pool. -/
theorem Query.suggestions_filter {p : Candidate → Bool} (hp : ∀ c, q.Admits α c → p c) :
    (q.rank (pool.filter p) : Ranking α).suggestions = (q.rank pool).suggestions := by
  by_cases hname : q.name = ""
  · rw [rank, rank, if_pos hname, if_pos hname]
  · rw [q.suggestions_rank _ hname, q.suggestions_rank _ hname, q.admitted_filter pool hp,
      foldl_offer_map_moveTo, map_suggestion_sorted_moveTo]
    exact fun s hs t ht => q.countP_take_le_iff pool hp
      (q.mem_admitted_of_mem_board pool hs) (q.mem_admitted_of_mem_board pool ht)

/-- What is suggested is a candidate of the pool that is admitted. -/
theorem Query.exists_admits_of_mem_suggestions {g : Suggestion α}
    (hg : g ∈ (q.rank pool : Ranking α).suggestions) :
    ∃ c ∈ pool, q.Admits α c ∧ g = q.suggest c (Score.composite q.name c.key) := by
  by_cases hname : q.name = ""
  · rw [rank, if_pos hname] at hg
    cases hg
  · rw [q.suggestions_rank pool hname] at hg
    obtain ⟨s, hs, rfl⟩ := List.mem_map.mp (q.limit.mem_of_mem_take hg)
    have hmem := q.mem_admitted_of_mem_board pool (List.mem_mergeSort.mp hs)
    obtain ⟨e, he, rfl⟩ := List.mem_map.mp hmem
    obtain ⟨hplace, hadmits⟩ := List.mem_filter.mp he
    exact ⟨e.1, List.fst_mem_of_mem_zipIdx hplace, of_decide_eq_true hadmits, rfl⟩

/-- What a query suggests from a pool is the ranking of the candidates admitted, cut off at the
limit. -/
theorem Query.exists_isRanking (hname : q.name ≠ "")
    (ord : Comparable (comparedScores (q.admitted pool : List (Standing α)))) :
    ∃ ranked, IsRanking (q.admitted pool : List (Standing α)) ranked ∧
      (q.rank pool).suggestions = q.limit.take (ranked.map (·.suggestion)) :=
  ⟨_, isRanking_sorted_foldl_offer (q.pairwise_order_admitted pool) ord,
    q.suggestions_rank pool hname⟩

/-- Reading a pool of candidates succeeds and keeps those that fit the usage. -/
theorem sweepFrom_candidates (onForeign : String → Refusal) (usage : Usage) (consumed : Nat)
    (pool : List Candidate) :
    let sweep := sweepFrom onForeign usage consumed (pool.map fun c => .ok (.candidate c))
    sweep.failure = none ∧ sweep.consumed = consumed + pool.length ∧
      sweep.kept.map (·.1) = pool.filter fun c => usage.admits c.symbol := by
  induction pool generalizing consumed with
  | nil => exact ⟨rfl, rfl, rfl⟩
  | cons c pool ih =>
    obtain ⟨hfailure, hconsumed, hkept⟩ := ih (consumed + 1)
    have hlength : consumed + 1 + pool.length = consumed + (c :: pool).length := by
      simp only [List.length_cons]
      omega
    by_cases hfits : usage.admits c.symbol = true
    · simp only [List.map_cons, sweepFrom, hfits, if_true, List.filter_cons_of_pos]
      exact ⟨hfailure, hconsumed.trans hlength, congrArg _ hkept⟩
    · simp only [List.map_cons, sweepFrom, hfits, if_false, List.filter_cons_of_neg,
        Bool.false_eq_true, not_false_eq_true]
      exact ⟨hfailure, hconsumed.trans hlength, hkept⟩

/-- For an empty query nothing is read and nothing is suggested. -/
theorem Query.rankPool_of_empty (hname : q.name = "") (workers : Option Int) (pool : List Pull) :
    (q.rankPool workers pool : PoolRanking α) = ⟨0, [], .ok ⟨[], 0, 0, 0⟩⟩ :=
  if_pos hname

/-- A pool of candidates that is still to be read is ranked like one that is at hand. -/
theorem Query.rankPool_candidates (hname : q.name ≠ "") (workers : Option Int) :
    (q.rankPool workers (pool.map fun c => .ok (.candidate c)) : PoolRanking α).result =
      .ok (q.rank pool) := by
  obtain ⟨hfailure, -, hkept⟩ := sweepFrom_candidates
    (fun typeName => .contract (.notACandidate typeName)) q.usage 0 pool
  rw [rankPool, if_neg hname, rank, if_neg hname, checkPool]
  simp only [hfailure, hkept]

end Pool

end DidYouMean
