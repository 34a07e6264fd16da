import DidYouMean.Evaluation.Mean
import DidYouMean.Gold
import DidYouMean.Ranking.Basic

/-!
# Evaluating predictions

How good predicted names are, measured against the names that are right: how many of these are among
the first few predictions, and how early the first of them comes.

## Main definitions

- `recallAt`, `reciprocalRank`: the measures for one query
- `evaluate`: their means over all queries
- `predict`: the names that are suggested for each query
-/

namespace DidYouMean.Evaluation

variable {α : Type} [Arith α]

/-- The share of the gold names that are among the first `k` predictions. -/
def recallAt (gold predicted : List String) (k : Limit) : α :=
  if gold.isEmpty then 0.0
  else ratio (gold.filter ((k.take predicted).contains ·)).length gold.length

/-- One divided by the place of the first prediction that is a gold name; zero if there is none. -/
def reciprocalRank (gold predicted : List String) : α :=
  match predicted.findIdx? (gold.contains ·) with
  | some i => 1.0 / Arith.ofCount (i + 1)
  | none => 0.0

abbrev Predictions := List (String × List String)

/-- The means of the measures: the recall for each number of predictions, and the reciprocal
rank. -/
structure Scores (α : Type) where
  recalls : List (Int × α)
  mrr : α

/-- The numbers of predictions for which the recall is measured, if no others are asked for. -/
def usualCutoffs : List Int := [1, 3, 5]

/-- The gold names and the predictions of each query that has both. -/
def pairs (predictions : Predictions) (gold : Gold) : List (List String × List String) :=
  predictions.filterMap fun (query, predicted) => (gold.lookup query).map (·, predicted)

/-- The mean of a measure over all queries; zero if there are none. -/
def meanOf (pairs : List (List String × List String))
    (measure : List String → List String → α) : α :=
  if pairs.isEmpty then 0.0 else mean (pairs.map fun (gold, predicted) => measure gold predicted)

/-- The means over all queries that have both predictions and gold names. -/
def evaluate (predictions : Predictions) (gold : Gold) (cutoffs : List Int) : Scores α :=
  let found := pairs predictions gold
  ⟨cutoffs.map fun k => (k, meanOf found fun gold predicted => recallAt gold predicted (some k)),
    meanOf found reciprocalRank⟩

/-- The names suggested for a query among some names. -/
def predictOne (names : List String) (limit : Limit) (query : String) : List String :=
  let ranking : Ranking Float :=
    { Query.ofName query with limit }.rank (names.map Candidate.ofName)
  ranking.suggestions.map (·.symbol.name)

def predict (queries names : List String) (limit : Limit) : Predictions :=
  queries.eraseDups.map fun query => (query, predictOne names limit query)

end DidYouMean.Evaluation
