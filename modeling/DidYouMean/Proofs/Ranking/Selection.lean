import DidYouMean.Proofs.Ranking.Board
import Mathlib.Data.List.Basic

/-!
# Rankings of standings

A ranking of a row of standings has, for each identity among them, the leading one, and it puts
these in order.  There is exactly one, and sorting what the board holds gives it.

## Main definitions

- `Standing.Precedes`: the order of a ranking
- `IsRanking`: a list is the ranking of a row of standings

## Main statements

- `IsRanking.unique`: a row of standings has one ranking at most
- `isRanking_sorted_foldl_offer`: the board, sorted, is the ranking of what was offered to it
-/

namespace DidYouMean

variable {α : Type} [Arith α]

/-- The scores by which standings are compared. -/
def comparedScores (seen : List (Standing α)) : List α :=
  seen.flatMap fun s => [s.suggestion.similarity, s.suggestion.final]

/-- A standing comes before another one: its final score is higher, or else not lower and its
similarity is higher, or else both are not lower and it is earlier. -/
def Standing.Precedes (s t : Standing α) : Prop :=
  t.suggestion.final < s.suggestion.final ∨ ¬s.suggestion.final < t.suggestion.final ∧
    (t.suggestion.similarity < s.suggestion.similarity ∨
      ¬s.suggestion.similarity < t.suggestion.similarity ∧ s.order < t.order)

/-- The list has the leading standing of each identity that is seen, and has them in order. -/
structure IsRanking (seen ranked : List (Standing α)) : Prop where
  leads : ∀ s ∈ ranked, s.Leads seen
  covers : ∀ t ∈ seen, ∃ s ∈ ranked, s.suggestion.identityKey = t.suggestion.identityKey
  distinct : ranked.Pairwise fun s t => s.suggestion.identityKey ≠ t.suggestion.identityKey
  sorted : ranked.Pairwise Standing.Precedes

section Scores

variable {seen : List (Standing α)} {s t u : Standing α}

omit [Arith α] in
theorem similarity_mem_comparedScores (hs : s ∈ seen) :
    s.suggestion.similarity ∈ comparedScores seen :=
  List.mem_flatMap.mpr ⟨s, hs, by simp⟩

omit [Arith α] in
theorem final_mem_comparedScores (hs : s ∈ seen) : s.suggestion.final ∈ comparedScores seen :=
  List.mem_flatMap.mpr ⟨s, hs, by simp⟩

omit [Arith α] in
theorem mem_comparedScores_of_mem {seen fewer : List (Standing α)} (h : ∀ t ∈ fewer, t ∈ seen) :
    ∀ x ∈ comparedScores fewer, x ∈ comparedScores seen := by
  intro x hx
  obtain ⟨t, ht, hx⟩ := List.mem_flatMap.mp hx
  exact List.mem_flatMap.mpr ⟨t, h t ht, hx⟩

theorem Comparable.of_mem {seen fewer : List (Standing α)} (ord : Comparable (comparedScores seen))
    (h : ∀ t ∈ fewer, t ∈ seen) : Comparable (comparedScores fewer) :=
  ord.mono (mem_comparedScores_of_mem h)

/-- Final scores are among the scores compared. -/
theorem Comparable.finals (ord : Comparable (comparedScores seen)) :
    Comparable (seen.map (·.suggestion.final)) := by
  refine ord.mono fun x hx => ?_
  obtain ⟨s, hs, rfl⟩ := List.mem_map.mp hx
  exact final_mem_comparedScores hs

namespace Standing

/-- The order by which the board is sorted is that of rankings, but a standing also comes before
itself. -/
theorem before_iff : s.before t = true ↔
    t.suggestion.final < s.suggestion.final ∨ ¬s.suggestion.final < t.suggestion.final ∧
      (t.suggestion.similarity < s.suggestion.similarity ∨
        ¬s.suggestion.similarity < t.suggestion.similarity ∧ s.order ≤ t.order) := by
  simp only [before, comesBefore]
  split_ifs <;> simp [*]

theorem before_trans (ord : Comparable (comparedScores seen)) (hs : s ∈ seen) (ht : t ∈ seen)
    (hu : u ∈ seen) (hst : s.before t) (htu : t.before u) : s.before u := by
  rw [before_iff] at hst htu ⊢
  refine ord.lex_trans (final_mem_comparedScores hs) (final_mem_comparedScores ht)
    (final_mem_comparedScores hu) (fun hst htu => ?_) hst htu
  exact ord.lex_trans (similarity_mem_comparedScores hs) (similarity_mem_comparedScores ht)
    (similarity_mem_comparedScores hu) Nat.le_trans hst htu

theorem before_total (s t : Standing α) : s.before t ∨ t.before s := by
  rw [before_iff, before_iff]
  exact lex_total (lex_total (Nat.le_total _ _))

theorem precedes_of_before (hst : s.before t) (hne : s.order ≠ t.order) : s.Precedes t := by
  rw [before_iff] at hst
  refine hst.imp_right fun ⟨hfinal, hrest⟩ => ⟨hfinal, hrest.imp_right fun ⟨hsim, hle⟩ => ?_⟩
  exact ⟨hsim, Nat.lt_of_le_of_ne hle hne⟩

theorem Precedes.asymm (ord : Comparable (comparedScores seen)) (hs : s ∈ seen) (ht : t ∈ seen)
    (hst : s.Precedes t) : ¬t.Precedes s := by
  intro hts
  obtain ⟨hst, hts⟩ := ord.lex_antisymm (final_mem_comparedScores hs)
    (final_mem_comparedScores ht) hst hts
  obtain ⟨hlt, hgt⟩ := ord.lex_antisymm (similarity_mem_comparedScores hs)
    (similarity_mem_comparedScores ht) hst hts
  exact Nat.lt_asymm hlt hgt

/-- Two standings that lead the same identity are at the same place. -/
theorem Leads.order_eq (hs : s.Leads seen) (ht : t.Leads seen)
    (hkey : s.suggestion.identityKey = t.suggestion.identityKey) : s.order = t.order :=
  Nat.le_antisymm
    (hs.earliest t ht.mem hkey.symm (ht.highest s hs.mem hkey))
    (ht.earliest s hs.mem hkey (hs.highest t ht.mem hkey.symm))

end Standing

end Scores

section Ranking

variable {seen ranked : List (Standing α)}

omit [Arith α] in
/-- Standings at different places can be told apart by their places. -/
theorem eq_of_order_eq (horder : seen.Pairwise fun s t => s.order < t.order)
    {s t : Standing α} (hs : s ∈ seen) (ht : t ∈ seen) (heq : s.order = t.order) : s = t := by
  have hnodup : (seen.map (·.order)).Nodup :=
    List.pairwise_map.mpr (horder.imp fun hlt => Nat.ne_of_lt hlt)
  exact List.inj_on_of_nodup_map hnodup hs ht heq

/-- Two standings that lead the same identity are one. -/
theorem Standing.Leads.eq {s t : Standing α} (hs : s.Leads seen) (ht : t.Leads seen)
    (horder : seen.Pairwise fun s t => s.order < t.order)
    (hkey : s.suggestion.identityKey = t.suggestion.identityKey) : s = t :=
  eq_of_order_eq horder hs.mem ht.mem (hs.order_eq ht hkey)

namespace IsRanking

theorem mem_iff (h : IsRanking seen ranked) (horder : seen.Pairwise fun s t => s.order < t.order)
    {s : Standing α} : s ∈ ranked ↔ s.Leads seen := by
  refine ⟨h.leads s, fun hs => ?_⟩
  obtain ⟨t, ht, hkey⟩ := h.covers s hs.mem
  rw [hs.eq (h.leads t ht) horder hkey.symm]
  exact ht

theorem nodup (h : IsRanking seen ranked) : ranked.Nodup :=
  h.distinct.imp fun hne heq => hne (congrArg (·.suggestion.identityKey) heq)

/-- A row of standings has one ranking at most. -/
theorem unique (ord : Comparable (comparedScores seen))
    (horder : seen.Pairwise fun s t => s.order < t.order) {other : List (Standing α)}
    (h : IsRanking seen ranked) (h' : IsRanking seen other) : ranked = other := by
  have hperm : ranked.Perm other := by
    rw [List.perm_ext_iff_of_nodup h.nodup h'.nodup]
    intro s
    rw [h.mem_iff horder, h'.mem_iff horder]
  -- they hold the same standings, and no two of these can stand either way round
  refine hperm.eq_of_pairwise (fun s t hs ht hst hts => ?_) h.sorted h'.sorted
  exact absurd hts (hst.asymm ord (h.leads s hs).mem (h'.leads t ht).mem)

end IsRanking

/-- The standings on the board, the best first. -/
def Board.sorted (board : Board α) : List (Standing α) :=
  (board.map (·.2)).mergeSort Standing.before

theorem Board.ranked_eq_map_sorted (board : Board α) :
    board.ranked = board.sorted.map (·.suggestion) := rfl

/-- A board that records a row of standings holds their ranking, once it is sorted. -/
theorem Board.Records.isRanking {board : Board α} (h : board.Records seen)
    (horder : seen.Pairwise fun s t => s.order < t.order)
    (ord : Comparable (comparedScores seen)) : IsRanking seen board.sorted := by
  have hmem : ∀ s, s ∈ board.sorted ↔ ∃ k, (k, s) ∈ board := by
    intro s
    simp [Board.sorted]
  have hleads : ∀ s ∈ board.sorted, s.Leads seen := by
    intro s hs
    obtain ⟨k, hk⟩ := (hmem s).mp hs
    exact (h.leads k s hk).2
  have hdistinct : board.sorted.Pairwise
      fun s t => s.suggestion.identityKey ≠ t.suggestion.identityKey := by
    refine ((List.mergeSort_perm _ _).pairwise_iff fun hne => hne.symm).mpr ?_
    rw [List.pairwise_map]
    refine (List.pairwise_map.mp h.nodup).imp_of_mem fun {e e'} he he' hne => ?_
    rw [(h.leads e.1 e.2 he).1, (h.leads e'.1 e'.2 he').1]
    exact hne
  have hbefore : board.sorted.Pairwise fun s t => s.before t := by
    have hseen : ∀ s ∈ board.map (·.2), s ∈ seen := fun s hs =>
      (hleads s (List.mem_mergeSort.mpr hs)).mem
    refine pairwise_mergeSort_of_mem ?_ fun s _ t _ => Standing.before_total s t
    intro s hs t ht u hu
    exact Standing.before_trans ord (hseen s hs) (hseen t ht) (hseen u hu)
  refine ⟨hleads, fun t ht => ?_, hdistinct, ?_⟩
  · obtain ⟨s, hs⟩ := h.covers t ht
    exact ⟨s, (hmem s).mpr ⟨_, hs⟩, (h.leads _ s hs).1⟩
  -- standings of different identities are at different places, so that the order is strict
  · refine (hbefore.and hdistinct).imp_of_mem fun {s t} hs ht hboth => ?_
    refine Standing.precedes_of_before hboth.1 fun heq => hboth.2 ?_
    rw [eq_of_order_eq horder (hleads s hs).mem (hleads t ht).mem heq]

/-- The board, sorted, is the ranking of what was offered to it. -/
theorem isRanking_sorted_foldl_offer (horder : seen.Pairwise fun s t => s.order < t.order)
    (ord : Comparable (comparedScores seen)) :
    IsRanking seen (Board.sorted (seen.foldl Board.offer [])) :=
  (records_foldl_offer horder ord.finals).isRanking horder ord

end Ranking

end DidYouMean
