import DidYouMean.Proofs.Score.DoubleOrder
import DidYouMean.Proofs.Score.Order
import DidYouMean.Score.Finder

/-!
# Rows and selections of scored entries

A flat search puts the entries that it keeps in a row, the highest score first and entries of equal score
in their order, and cuts the row off.  Entries may repeat.  So a row is one of occurrences, each of which
is an entry with its place in the list.

## Main definitions

- `IsRow`: the row of the entries of a list that are kept
- `IsSelection`: the highest-scoring ones of these, up to a number

## Main statements

- `isRow_sortedRow`, `byScore_eq_withScores`: sorting the entries that are kept gives their row
- `IsRow.isSelection_take`: cutting off the row gives a selection
- `finders_isSelection`: the three flat searches find selections
-/

namespace DidYouMean.Score

variable {α β : Type} [Arith α] {score : β → α} {kept : β → Prop} {entries : List β}

/-- The list has every occurrence of an entry that is kept, the highest score first, and those of equal
score in the order of the entries. -/
structure IsRow (score : β → α) (kept : β → Prop) (entries : List β)
    (row : List (β × Nat)) : Prop where
  mem_iff : ∀ e n, (e, n) ∈ row ↔ entries[n]? = some e ∧ kept e
  nodup : row.Nodup
  falling : row.Pairwise fun a b => score b.1 ≤ score a.1
  stable : row.Pairwise fun a b => score a.1 ≤ score b.1 → a.2 < b.2

/-- The list has as many occurrences of entries that are kept as the number allows, each of them once, in
the order of a row, and no other one has a higher score. -/
structure IsSelection (score : β → α) (kept : β → Prop) [DecidablePred kept] (entries : List β)
    (k : Nat) (chosen : List (β × Nat)) : Prop where
  sound : ∀ e n, (e, n) ∈ chosen → entries[n]? = some e ∧ kept e
  nodup : chosen.Nodup
  length_eq : chosen.length = min k (entries.countP fun e => kept e)
  falling : chosen.Pairwise fun a b => score b.1 ≤ score a.1
  stable : chosen.Pairwise fun a b => score a.1 ≤ score b.1 → a.2 < b.2
  highest : ∀ e n, entries[n]? = some e → kept e → (e, n) ∉ chosen →
    ∀ c ∈ chosen, score e ≤ score c.1

/-- The entries of a row with their scores. -/
def withScores (score : β → α) (row : List (β × Nat)) : List (β × α) :=
  row.map fun e => (e.1, score e.1)

section Sorting

/-- An occurrence stands before another one in a row: its score is not lower, and if both are equal, it
is not the later one. -/
def standsBefore (score : β → α) (a b : β × Nat) : Bool :=
  score b.1 ≤ score a.1 && (!decide (score a.1 ≤ score b.1) || a.2 ≤ b.2)

theorem standsBefore_iff {a b : β × Nat} : standsBefore score a b ↔
    score b.1 ≤ score a.1 ∧ (score a.1 ≤ score b.1 → a.2 ≤ b.2) := by
  simp [standsBefore, imp_iff_not_or]

/-- The occurrences of the entries that are kept, in order. -/
def sortedRow (score : β → α) (kept : β → Prop) [DecidablePred kept] (entries : List β) :
    List (β × Nat) :=
  (entries.zipIdx.filter fun e => kept e.1).mergeSort (standsBefore score)

variable [DecidablePred kept]

theorem mem_sortedRow_iff {e : β} {n : Nat} :
    (e, n) ∈ sortedRow score kept entries ↔ entries[n]? = some e ∧ kept e := by
  rw [sortedRow, List.mem_mergeSort, List.mem_filter, List.mem_zipIdx_iff_getElem?,
    decide_eq_true_iff]

theorem nodup_sortedRow : (sortedRow score kept entries).Nodup := by
  refine (List.mergeSort_perm _ _).nodup_iff.mpr (((pairwise_snd_zipIdx entries).filter _).imp ?_)
  rintro a _ hlt rfl
  exact lt_irrefl _ hlt

theorem length_sortedRow :
    (sortedRow score kept entries).length = entries.countP fun e => kept e := by
  rw [sortedRow, List.length_mergeSort, ← List.countP_eq_length_filter]
  conv_rhs => rw [← List.zipIdx_map_fst 0 entries, List.countP_map]
  rfl

/-- Sorting the entries that are kept by score gives their occurrences in order. -/
theorem byScore_eq_withScores (score : β → α) (kept : β → Prop) [DecidablePred kept]
    (entries : List β) : byScore ((entries.filter fun e => kept e).map fun e => (e, score e)) =
      withScores score (sortedRow score kept entries) := by
  have hsame : (entries.zipIdx.filter fun e => kept e.1).Pairwise fun a b =>
      standsBefore score a b = decide (score b.1 ≤ score a.1) := by
    refine ((pairwise_snd_zipIdx entries).filter _).imp fun {a b} hlt => ?_
    rw [standsBefore, decide_eq_true hlt.le, Bool.or_true, Bool.and_true]
  have hentries : (entries.zipIdx.filter fun e => kept e.1).map (fun e => (e.1, score e.1)) =
      (entries.filter fun e => kept e).map fun e => (e, score e) := by
    conv_rhs => rw [← List.zipIdx_map_fst 0 entries, List.filter_map, List.map_map]
    rfl
  rw [withScores, sortedRow, byScore, ← hentries]
  exact (map_mergeSort_of_pairwise (f := fun e : β × Nat => (e.1, score e.1))
    (s := fun a b : β × α => decide (b.2 ≤ a.2)) _ hsame).symm

end Sorting

namespace IsRow

variable {row : List (β × Nat)}

/-- Entries without repeats are in a row once. -/
theorem nodup_map_fst (h : IsRow score kept entries row) (hentries : entries.Nodup) :
    (row.map (·.1)).Nodup := by
  refine List.pairwise_map.mpr (h.nodup.imp_of_mem fun {a b} ha hb hne hsame => hne ?_)
  have hfirst := ((h.mem_iff a.1 a.2).mp ha).1
  have hsecond := ((h.mem_iff b.1 b.2).mp hb).1
  obtain ⟨hlt, -⟩ := List.getElem?_eq_some_iff.mp hfirst
  refine Prod.ext hsame ((List.getElem?_inj hlt hentries).mp ?_)
  rw [hfirst, hsecond, hsame]

/-- Only what is kept and its scores count. -/
theorem congr {score' : β → α} {kept' : β → Prop} (h : IsRow score kept entries row)
    (hkept : ∀ e ∈ entries, kept e ↔ kept' e) (hscore : ∀ e ∈ entries, kept e → score e = score' e) :
    IsRow score' kept' entries row ∧ withScores score row = withScores score' row := by
  have hsame : ∀ a ∈ row, score a.1 = score' a.1 := by
    intro a ha
    obtain ⟨hplace, hkeep⟩ := (h.mem_iff a.1 a.2).mp ha
    exact hscore _ (List.mem_of_getElem? hplace) hkeep
  refine ⟨⟨fun e n => ?_, h.nodup, ?_, ?_⟩, List.map_congr_left fun a ha => by rw [hsame a ha]⟩
  · rw [h.mem_iff]
    exact and_congr_right fun hplace => hkept e (List.mem_of_getElem? hplace)
  · refine h.falling.imp_of_mem fun {a b} ha hb hle => ?_
    rwa [← hsame a ha, ← hsame b hb]
  · refine h.stable.imp_of_mem fun {a b} ha hb hlt => ?_
    rwa [← hsame a ha, ← hsame b hb]

variable [DecidablePred kept]

theorem length_eq (h : IsRow score kept entries row) :
    row.length = entries.countP fun e => kept e := by
  have hperm : row.Perm (sortedRow score kept entries) := by
    refine (List.perm_ext_iff_of_nodup h.nodup nodup_sortedRow).mpr fun a => ?_
    rw [h.mem_iff a.1 a.2, mem_sortedRow_iff]
  rw [hperm.length_eq, length_sortedRow]

/-- If only one occurrence is kept, the row is that one. -/
theorem eq_singleton (h : IsRow score kept entries row) {e : β} {n : Nat}
    (hplace : entries[n]? = some e) (hkept : kept e)
    (hone : (entries.countP fun e => kept e) = 1) : row = [(e, n)] := by
  obtain ⟨a, rfl⟩ := List.length_eq_one_iff.mp (h.length_eq.trans hone)
  rw [List.mem_singleton.mp ((h.mem_iff e n).mpr ⟨hplace, hkept⟩)]

/-- Cutting off a row gives a selection. -/
theorem isSelection_take (h : IsRow score kept entries row) (k : Nat) :
    IsSelection score kept entries k (row.take k) := by
  refine ⟨fun e n he => (h.mem_iff e n).mp (List.mem_of_mem_take he),
    h.nodup.sublist (List.take_sublist k row), ?_, h.falling.sublist (List.take_sublist k row),
    h.stable.sublist (List.take_sublist k row), ?_⟩
  · rw [List.length_take, h.length_eq]
  · intro e n hplace hkept hout c hc
    have hmem : (e, n) ∈ row := (h.mem_iff e n).mpr ⟨hplace, hkept⟩
    rw [← List.take_append_drop k row, List.mem_append, or_iff_right hout] at hmem
    have hfalling := h.falling
    rw [← List.take_append_drop k row, List.pairwise_append] at hfalling
    exact hfalling.2.2 c hc (e, n) hmem

end IsRow

section Doubles

variable {score : β → Float} {a b c : β × Nat}

theorem standsBefore_trans (hab : standsBefore score a b) (hbc : standsBefore score b c) :
    standsBefore score a c := by
  rw [standsBefore_iff] at hab hbc ⊢
  refine ⟨double_le_trans hbc.1 hab.1, fun hac => ?_⟩
  have hab' := hab.2 (double_le_trans hac hbc.1)
  have hbc' := hbc.2 (double_le_trans hab.1 hac)
  exact hab'.trans hbc'

theorem standsBefore_total (ha : score a.1 ≤ score a.1) (hb : score b.1 ≤ score b.1) :
    standsBefore score a b ∨ standsBefore score b a := by
  rw [standsBefore_iff, standsBefore_iff]
  by_cases hab : score a.1 ≤ score b.1
  · by_cases hba : score b.1 ≤ score a.1
    · exact (Nat.le_total a.2 b.2).imp (fun hle => ⟨hba, fun _ => hle⟩) fun hle => ⟨hab, fun _ => hle⟩
    · exact .inr ⟨hab, fun h => absurd h hba⟩
  · exact .inl ⟨double_le_of_not_le hb ha hab, fun h => absurd h hab⟩

variable [DecidablePred kept]

/-- If all scores are numbers, the occurrences in order are a row. -/
theorem isRow_sortedRow (hnumber : ∀ e ∈ entries, kept e → score e ≤ score e) :
    IsRow score kept entries (sortedRow score kept entries) := by
  have hnumbers : ∀ a ∈ entries.zipIdx.filter fun e => kept e.1, score a.1 ≤ score a.1 := by
    intro a ha
    obtain ⟨hmem, hkept⟩ := List.mem_filter.mp ha
    exact hnumber _ (List.fst_mem_of_mem_zipIdx hmem) (of_decide_eq_true hkept)
  have hsorted : (sortedRow score kept entries).Pairwise fun a b => standsBefore score a b :=
    pairwise_mergeSort_of_mem (fun _ _ _ _ _ _ => standsBefore_trans)
      fun a ha b hb => standsBefore_total (hnumbers a ha) (hnumbers b hb)
  refine ⟨fun e n => mem_sortedRow_iff, nodup_sortedRow, ?_, ?_⟩
  · exact hsorted.imp fun h => (standsBefore_iff.mp h).1
  · refine (hsorted.and nodup_sortedRow).imp_of_mem fun {a b} ha hb h htie => ?_
    refine lt_of_le_of_ne ((standsBefore_iff.mp h.1).2 htie) fun hplace => h.2 ?_
    -- at one place there is one entry
    have hfirst := (mem_sortedRow_iff.mp ha).1
    have hsecond := (mem_sortedRow_iff.mp hb).1
    rw [hplace, hsecond] at hfirst
    exact Prod.ext (Option.some.inj hfirst).symm hplace

/-- Scored entries that are sorted after those are left out of which the score is not kept are a row. -/
theorem exists_isRow_byScore (score : β → Float) (suits kept : β → Prop) [DecidablePred suits]
    [DecidablePred kept] (keep : Float → Bool) (hkeep : ∀ e, keep (score e) ↔ kept e)
    (hnumber : ∀ e, kept e → score e ≤ score e) (entries : List β) :
    ∃ row, IsRow score (fun e => suits e ∧ kept e) entries row ∧
      byScore (((entries.filter fun e => suits e).map fun e => (e, score e)).filter
        fun e => keep e.2) = withScores score row := by
  refine ⟨_, isRow_sortedRow fun e _ he => hnumber e he.2, ?_⟩
  rw [← byScore_eq_withScores, List.filter_map, List.filter_filter]
  refine congrArg _ (congrArg _ (List.filter_congr fun e _ => ?_))
  rw [Bool.eq_iff_iff, Bool.and_eq_true, decide_eq_true_iff, decide_eq_true_iff,
    Function.comp_apply, hkeep, and_comm]

/-- What a flat search finds is a selection. -/
theorem exists_isSelection_best (score : β → Float) (suits kept : β → Prop) [DecidablePred suits]
    [DecidablePred kept] (keep : Float → Bool) (hkeep : ∀ e, keep (score e) ↔ kept e)
    (hnumber : ∀ e, kept e → score e ≤ score e) (entries : List β) (k : Nat) :
    ∃ chosen, IsSelection score (fun e => suits e ∧ kept e) entries k chosen ∧
      best score keep (some (k : Int)) (entries.filter fun e => suits e) =
        withScores score chosen := by
  obtain ⟨row, hrow, hsorted⟩ :=
    exists_isRow_byScore score suits kept keep hkeep hnumber entries
  refine ⟨_, hrow.isSelection_take k, ?_⟩
  rw [best, hsorted, Limit.take_natCast, withScores, withScores, List.map_take]

/-- The flat searches find selections: of names that are not empty and reach the least score; of entries
of which the key is not empty and not the query, and reaches it; and of exported names that are not empty
and exceed it. -/
theorem finders_isSelection (query : String) (k : Nat) :
    (∀ names : List String, ∃ chosen,
      IsSelection (composite query : String → Float)
        (fun n => n ≠ "" ∧ leastScore ≤ (composite query n : Float)) names k chosen ∧
      similarNames query names (some k) =
        withScores (composite query : String → Float) chosen) ∧
    (∀ {γ : Type} (entries : List (String × γ)), ∃ chosen,
      IsSelection (fun e => (composite query e.1 : Float))
        (fun e => (e.1 ≠ "" ∧ e.1 ≠ query) ∧ leastScore ≤ (composite query e.1 : Float))
        entries k chosen ∧
      similarSymbols query entries (some k) =
        withScores (fun e => (composite query e.1 : Float)) chosen) ∧
    (∀ exports : Option (List String), ∃ chosen,
      IsSelection (composite query : String → Float)
        (fun n => n ≠ "" ∧ leastScore < (composite query n : Float)) (exports.getD []) k chosen ∧
      possibleExports query exports (some k) =
        withScores (composite query : String → Float) chosen) := by
  refine ⟨fun names => ?_, fun entries => ?_, fun exports => ?_⟩
  · exact exists_isSelection_best _ (fun n => n ≠ "") _ _ (fun _ => decide_eq_true_iff)
      (fun _ => double_le_self_right) names k
  · obtain ⟨chosen, hchosen, hbest⟩ := exists_isSelection_best
      (fun e => (composite query e.1 : Float)) (fun e => e.1 ≠ "" ∧ e.1 ≠ query) _
      (fun s => decide (leastScore ≤ s)) (fun _ => decide_eq_true_iff)
      (fun _ => double_le_self_right) entries k
    refine ⟨chosen, hchosen, ?_⟩
    rw [← hbest, similarSymbols]
    simp only [Bool.decide_and]
  · obtain ⟨chosen, hchosen, hbest⟩ := exists_isSelection_best (composite query : String → Float)
      (fun n => n ≠ "") _ (fun s => decide (leastScore < s)) (fun _ => decide_eq_true_iff)
      (fun _ h => double_le_self_right (double_le_of_lt h)) (exports.getD []) k
    refine ⟨chosen, hchosen, hbest ▸ ?_⟩
    cases exports with
    | none => simp [possibleExports, best, byScore, Limit.take_natCast]
    | some names => rfl

end Doubles

end DidYouMean.Score
