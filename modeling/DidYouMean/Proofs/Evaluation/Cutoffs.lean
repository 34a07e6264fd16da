import DidYouMean.Command.Evaluate
import DidYouMean.Proofs.Evaluation.ExactMean
import DidYouMean.Proofs.Ranking.Suggestions
import Mathlib.Data.Nat.Cast.Order.Field

/-!
# Cutoffs and predictions

An evaluation run asks the ranker for a limited number of names: as many as the greatest cutoff, and
no fewer than usual.  No recall that is asked for looks further than that, and so it is the recall of
the whole ranking.  The reciprocal rank has no cutoff of its own.  It looks as far as the run does,
and a name beyond that counts in a run with a greater cutoff only.

## Main definitions

- `firstHit?`: the place of the first prediction that is a gold name
- `EvaluationSettings.depth`: how many names a run predicts for a query
- `AgreeOnFirstHits`: two depths do not tell the first hits of any query apart
- `EvaluationSettings.exactMrr`: the mean reciprocal rank of a run, if the mean is taken exactly

## Main statements

- `predict_eq_map_take`: limited predictions are the first ones of all predictions
- `EvaluationSettings.recalls_eq_unlimited`: the recalls of a run are those of all predictions
- `EvaluationSettings.mrr_eq_iff_agree`: when two runs report the same mean reciprocal rank
-/

namespace DidYouMean

/-- A limit cuts off what is suggested without one. -/
theorem Query.suggestions_eq_take {α : Type} [Arith α] (q : Query) (limit : Limit)
    (pool : List Candidate) : ({ q with limit }.rank pool : Ranking α).suggestions =
      limit.take ({ q with limit := none }.rank pool).suggestions := by
  by_cases hname : q.name = ""
  · rw [rank, rank, if_pos hname, if_pos hname]
    cases limit <;> simp [Limit.take]
  · rw [rank, rank, if_neg hname, if_neg hname]
    rfl

namespace Evaluation

section Predictions

variable (names : List String) (limit : Limit)

theorem predictOne_eq_take (query : String) :
    predictOne names limit query = limit.take (predictOne names none query) := by
  rw [predictOne, predictOne, ← Limit.map_take]
  exact congrArg _ (Query.suggestions_eq_take (.ofName query) limit _)

/-- Limited predictions are the first ones of all predictions. -/
theorem predict_eq_map_take (queries : List String) : predict queries names limit =
    (predict queries names none).map fun e => (e.1, limit.take e.2) := by
  rw [predict, predict, List.map_map]
  exact List.map_congr_left fun query _ => congrArg _ (predictOne_eq_take names limit query)

theorem pairs_map (f : List String → List String) (predictions : Predictions) (gold : Gold) :
    pairs (predictions.map fun e => (e.1, f e.2)) gold =
      (pairs predictions gold).map fun e => (e.1, f e.2) := by
  rw [pairs, pairs, List.filterMap_map, List.map_filterMap]
  refine List.filterMap_congr fun e _ => ?_
  simp only [Function.comp_apply, Option.map_map]
  rfl

theorem meanOf_map {α : Type} [Arith α] (f : List String → List String)
    (found : List (List String × List String)) (measure : List String → List String → α) :
    meanOf (found.map fun e => (e.1, f e.2)) measure =
      meanOf found fun gold predicted => measure gold (f predicted) := by
  rw [meanOf, meanOf, List.isEmpty_map, List.map_map]
  rfl

end Predictions

section Recall

variable {α : Type} [Arith α] {k n : Nat}

/-- The recall does not see predictions beyond its cutoff. -/
theorem recallAt_take (hk : k ≤ n) (gold predicted : List String) :
    (recallAt gold (predicted.take n) (some (k : Int)) : α) = recallAt gold predicted (some k) := by
  rw [recallAt, recallAt, Limit.take_natCast, Limit.take_natCast, List.take_take,
    Nat.min_eq_left hk]

end Recall

section FirstHit

variable {gold predicted : List String} {n m i : Nat}

/-- The place of the first prediction that is a gold name. -/
def firstHit? (gold predicted : List String) : Option Nat :=
  predicted.findIdx? (gold.contains ·)

theorem firstHit?_take (gold predicted : List String) (n : Nat) :
    firstHit? gold (predicted.take n) = (firstHit? gold predicted).filter (· < n) := by
  rw [firstHit?, List.findIdx?_take, Option.bind_guard, firstHit?]

/-- Two depths do not tell the first hits of any query apart: each of them is within both or beyond
both. -/
def AgreeOnFirstHits (found : List (List String × List String)) (n m : Nat) : Prop :=
  ∀ e ∈ found, ∀ i, firstHit? e.1 e.2 = some i → (i < n ↔ i < m)

instance (found : List (List String × List String)) (n m : Nat) :
    Decidable (AgreeOnFirstHits found n m) :=
  decidable_of_iff (∀ e ∈ found, ∀ i ∈ firstHit? e.1 e.2, (i < n ↔ i < m)) Iff.rfl

theorem firstHit?_take_congr (h : ∀ i, firstHit? gold predicted = some i → (i < n ↔ i < m)) :
    firstHit? gold (predicted.take n) = firstHit? gold (predicted.take m) := by
  rw [firstHit?_take, firstHit?_take]
  cases hfirst : firstHit? gold predicted with
  | none => rfl
  | some i => simp [Option.filter, h i hfirst]

theorem reciprocalRank_eq {α : Type} [Arith α] (gold predicted : List String) :
    (reciprocalRank gold predicted : α) =
      match firstHit? gold predicted with
      | some i => 1.0 / Arith.ofCount (i + 1)
      | none => 0.0 := rfl

theorem exact_reciprocalRank (gold predicted : List String) :
    (reciprocalRank gold predicted : Rat) =
      match firstHit? gold predicted with
      | some i => 1 / ((i : Rat) + 1)
      | none => 0 := by
  have hone : (@OfScientific.ofScientific Rat Arith.toOfScientific 10 true 1) = 1 := by
    change (1.0 : Rat) = 1
    norm_num
  rw [reciprocalRank_eq]
  cases firstHit? gold predicted with
  | none => exact arith_zero_rat
  | some i =>
    dsimp only
    rw [hone]
    exact congrArg _ (Nat.cast_succ i)

theorem reciprocalRank_rat (gold predicted : List String) (n : Nat) :
    (reciprocalRank gold (predicted.take n) : Rat) =
      match firstHit? gold predicted with
      | some i => if i < n then 1 / ((i : Rat) + 1) else 0
      | none => 0 := by
  rw [exact_reciprocalRank, firstHit?_take]
  cases firstHit? gold predicted with
  | none => rfl
  | some i => by_cases hlt : i < n <;> simp [Option.filter, hlt]

theorem reciprocalRank_take_congr {α : Type} [Arith α]
    (h : ∀ i, firstHit? gold predicted = some i → (i < n ↔ i < m)) :
    (reciprocalRank gold (predicted.take n) : α) = reciprocalRank gold (predicted.take m) := by
  rw [reciprocalRank_eq, reciprocalRank_eq, firstHit?_take_congr h]

/-- Looking further never lowers the reciprocal rank. -/
theorem reciprocalRank_take_le (hnm : n ≤ m) (gold predicted : List String) :
    (reciprocalRank gold (predicted.take n) : Rat) ≤ reciprocalRank gold (predicted.take m) := by
  rw [reciprocalRank_rat, reciprocalRank_rat]
  cases firstHit? gold predicted with
  | none => exact le_rfl
  | some i =>
    have hpos : (0 : Rat) < 1 / ((i : Rat) + 1) := Nat.one_div_pos_of_nat
    dsimp only
    split_ifs with hn hm
    · exact le_rfl
    · omega
    · exact hpos.le
    · exact le_rfl

theorem reciprocalRank_take_eq_iff :
    (reciprocalRank gold (predicted.take n) : Rat) = reciprocalRank gold (predicted.take m) ↔
      ∀ i, firstHit? gold predicted = some i → (i < n ↔ i < m) := by
  constructor
  · intro heq i hi
    rw [reciprocalRank_rat, reciprocalRank_rat, hi] at heq
    have hpos : (0 : Rat) < 1 / ((i : Rat) + 1) := Nat.one_div_pos_of_nat
    dsimp only at heq
    split_ifs at heq with hn hm hm
    · exact iff_of_true hn hm
    · exact absurd heq hpos.ne'
    · exact absurd heq hpos.ne
    · exact iff_of_false hn hm
  · exact reciprocalRank_take_congr

theorem agreeOnFirstHits_comm {found : List (List String × List String)} :
    AgreeOnFirstHits found n m ↔ AgreeOnFirstHits found m n :=
  forall₄_congr fun _ _ _ _ => Iff.comm

/-- The exact mean of the reciprocal ranks is the same for two depths just if they agree on all first
hits. -/
theorem meanOf_reciprocalRank_eq_iff (found : List (List String × List String)) (n m : Nat) :
    (meanOf found fun gold predicted => (reciprocalRank gold (predicted.take n) : Rat)) =
        (meanOf found fun gold predicted => reciprocalRank gold (predicted.take m)) ↔
      AgreeOnFirstHits found n m := by
  wlog hnm : n ≤ m generalizing n m
  · rw [eq_comm, agreeOnFirstHits_comm, this m n (Nat.le_of_not_le hnm)]
  by_cases hempty : found = []
  · subst hempty
    simp [meanOf, AgreeOnFirstHits]
  · have hnot : found.isEmpty = false := by simpa using hempty
    rw [meanOf, meanOf, hnot]
    simp only [Bool.false_eq_true, if_false]
    rw [mean_map_eq_iff_of_le hempty fun e _ => reciprocalRank_take_le hnm e.1 e.2]
    exact forall₂_congr fun e _ => reciprocalRank_take_eq_iff

end FirstHit

end Evaluation

namespace Command.EvaluationSettings

open Evaluation

/-- How many names a run predicts for a query at most. -/
def depth (s : EvaluationSettings) : Nat :=
  (s.cutoffs.foldl max (Limit.usual.getD 0)).toNat

theorem le_foldl_max (ks : List Int) (least : Int) :
    least ≤ ks.foldl max least ∧ ∀ k ∈ ks, k ≤ ks.foldl max least := by
  induction ks generalizing least with
  | nil => simp
  | cons k ks ih =>
    obtain ⟨hleast, hks⟩ := ih (max least k)
    rw [List.foldl_cons, List.forall_mem_cons]
    exact ⟨by omega, by omega, hks⟩

variable (s s' : EvaluationSettings)

theorem limit_eq_depth : s.limit = some (s.depth : Int) := by
  have hleast := (le_foldl_max s.cutoffs (Limit.usual.getD 0)).1
  have husual : (0 : Int) ≤ Limit.usual.getD 0 := by decide
  rw [limit, depth, Int.toNat_of_nonneg (by omega)]

theorem le_depth {k : Nat} (hk : (k : Int) ∈ s.cutoffs) : k ≤ s.depth := by
  have hle := (le_foldl_max s.cutoffs (Limit.usual.getD 0)).2 k hk
  rw [depth]
  omega

/-- Names that are equally similar to the query "item". -/
def itemNames : List String := ["item1", "item2", "item3", "item4", "item5", "item6"]

def itemGold : Gold := [("item", ["item6"])]

def itemRun (cutoffs : List Int) : EvaluationSettings :=
  { EvaluationSettings.initial with cutoffs }

/-- The recalls that a run computes are those of all predictions, without a limit. -/
theorem recalls_eq_unlimited (gold : Gold) (names : List String)
    (hcutoffs : ∀ k ∈ s.cutoffs, 0 ≤ k) : (s.scores gold names).recalls =
      (evaluate (predict (gold.map (·.1)) names none) gold s.cutoffs).recalls := by
  rw [scores, evaluate, evaluate, predict_eq_map_take, pairs_map]
  refine List.map_congr_left fun k hk => ?_
  obtain ⟨k, rfl⟩ := Int.eq_ofNat_of_zero_le (hcutoffs k hk)
  rw [meanOf_map, limit_eq_depth]
  simp only [Limit.take_natCast, recallAt_take (s.le_depth hk)]

/-- One cutoff is beyond the usual number of predictions. -/
theorem recalls_eq_unlimited_item :
    (∀ k ∈ (itemRun [0, 2, 6]).cutoffs, 0 ≤ k) ∧
      ((itemRun [0, 2, 6]).scores itemGold itemNames).recalls =
        (evaluate (predict (itemGold.map (·.1)) itemNames none) itemGold [0, 2, 6]).recalls := by
  have hcutoffs : ∀ k ∈ (itemRun [0, 2, 6]).cutoffs, 0 ≤ k := by decide
  exact ⟨hcutoffs, recalls_eq_unlimited (itemRun [0, 2, 6]) itemGold itemNames hcutoffs⟩

/-- The mean reciprocal rank of a run, in whatever arithmetic the mean is taken. -/
theorem mrr_evaluate {α : Type} [Arith α] (gold : Gold) (names : List String) :
    (evaluate (predict (gold.map (·.1)) names s.limit) gold s.cutoffs : Scores α).mrr =
      meanOf (pairs (predict (gold.map (·.1)) names none) gold)
        fun gold predicted => reciprocalRank gold (predicted.take s.depth) := by
  rw [evaluate, predict_eq_map_take, pairs_map, meanOf_map, limit_eq_depth]
  simp only [Limit.take_natCast]

/-- The mean reciprocal rank of a run, if the mean is taken exactly. -/
def exactMrr (gold : Gold) (names : List String) : Rat :=
  (evaluate (predict (gold.map (·.1)) names s.limit) gold s.cutoffs).mrr

/-- Two runs report the same mean reciprocal rank if their depths agree on the first hits in all
predictions.  If the means are taken exactly, they are the same only then. -/
theorem mrr_eq_iff_agree (gold : Gold) (names : List String) :
    let agree := AgreeOnFirstHits (pairs (predict (gold.map (·.1)) names none) gold) s.depth s'.depth
    (s.exactMrr gold names = s'.exactMrr gold names ↔ agree) ∧
      (agree → (s.scores gold names).mrr = (s'.scores gold names).mrr) := by
  intro agree
  constructor
  · rw [exactMrr, exactMrr, mrr_evaluate, mrr_evaluate]
    exact meanOf_reciprocalRank_eq_iff _ _ _
  · intro hagree
    rw [scores, scores, mrr_evaluate, mrr_evaluate, meanOf, meanOf]
    exact congrArg _ (congrArg mean (List.map_congr_left fun e he =>
      reciprocalRank_take_congr (hagree e he)))

section Items

theorem predictOne_itemNames : predictOne itemNames none "item" = itemNames := by
  let q : Query := { Query.ofName "item" with limit := none }
  exact q.map_suggestions_rank (itemNames.map Candidate.ofName) (by decide) (·.symbol.name)
    itemNames rfl (by decide +kernel) (by decide +kernel)

theorem pairs_itemGold :
    pairs (predict (itemGold.map (·.1)) itemNames none) itemGold = [(["item6"], itemNames)] := by
  have hqueries : (itemGold.map (·.1)).eraseDups = ["item"] := by decide
  rw [predict, hqueries, List.map_singleton, predictOne_itemNames]
  rfl

theorem mrr_itemRun (cutoffs : List Int) : ((itemRun cutoffs).scores itemGold itemNames).mrr =
    (0.0 + reciprocalRank ["item6"] (itemNames.take (itemRun cutoffs).depth)) /
      Arith.ofCount 1 := by
  rw [scores, mrr_evaluate, pairs_itemGold, meanOf, mean, pairwiseSum]
  rfl

end Items

/-- The first hit is the sixth prediction, which is within both depths. -/
theorem mrr_eq_iff_agree_item :
    AgreeOnFirstHits (pairs (predict (itemGold.map (·.1)) itemNames none) itemGold)
        (itemRun [6]).depth (itemRun [1, 10]).depth ∧
      ((itemRun [6]).scores itemGold itemNames).mrr =
        ((itemRun [1, 10]).scores itemGold itemNames).mrr := by
  have hagree : AgreeOnFirstHits (pairs (predict (itemGold.map (·.1)) itemNames none) itemGold)
      (itemRun [6]).depth (itemRun [1, 10]).depth := by
    rw [pairs_itemGold]
    decide
  exact ⟨hagree, (mrr_eq_iff_agree _ _ _ _).2 hagree⟩

/-- The last of six names is too far down for a run with a cutoff at the first prediction, but not for
one with a cutoff at the sixth. -/
theorem not_mrr_eq_of_cutoffs : ¬∀ (s s' : EvaluationSettings) (gold : Gold) (names : List String),
    s.cutoffs ≠ [] → s'.cutoffs ≠ [] → (∀ k ∈ s.cutoffs, 1 ≤ k) → (∀ k ∈ s'.cutoffs, 1 ≤ k) →
      (s.scores gold names).mrr = (s'.scores gold names).mrr := by
  intro h
  have hsame := h (itemRun [1]) (itemRun [6]) itemGold itemNames (by decide) (by decide)
    (by decide) (by decide)
  rw [mrr_itemRun, mrr_itemRun] at hsame
  revert hsame
  decide +kernel

end Command.EvaluationSettings

end DidYouMean
