import DidYouMean.Decimal.Fixed
import DidYouMean.Evaluation.Basic
import DidYouMean.Ranking.Basic

/-!
# Printed answers

The lines in which the programs print their answers.

## Main definitions

- `breakdownLine`: the parts of a score
- `suggestionLines`, `namespaceLines`, `scoreLines`, `evaluationLines`: the answers
-/

namespace DidYouMean.Command

def padRight (width : Nat) (s : String) : String :=
  s ++ String.ofList (List.replicate (width - s.length) ' ')

def padLeft (width : Nat) (s : String) : String :=
  String.ofList (List.replicate (width - s.length) ' ') ++ s

/-- The place of an answer, counted from one, and what is answered. -/
def placed (index : Nat) (answer : String) : String :=
  padLeft 2 (toString (index + 1)) ++ ". " ++ padRight 40 answer

/-- A score with four places. -/
def shownScore (x : Float) : String :=
  Decimal.fixed 4 false x

/-- The parts of a score. -/
def breakdownLine (b : Score.Breakdown Float) : String :=
  let part (name : String) (x : Float) := name ++ "=" ++ Decimal.fixed 4 true x
  " ".intercalate [part "base" b.base, part "exact" b.exact, part "containment" b.containment,
    part "tokens" b.tokens, part "length_penalty" b.penalty]

def nothingLine : String := "(no suggestions)"

/-- The lines for a suggestion; the parts of its score go below it, if they are wanted. -/
def suggestionLines (query : String) (explain : Bool) (index : Nat) (s : Suggestion Float) :
    List String :=
  let line := placed index s.identityKey ++ " final=" ++ shownScore s.final ++ " sim="
    ++ shownScore s.similarity ++ " [" ++ s.tier.label ++ "]"
  if explain then [line, "    " ++ breakdownLine (Score.breakdown query s.symbol.name)]
  else [line]

def namespaceLine (index : Nat) (found : String × Float) : String :=
  placed index found.1 ++ " score=" ++ shownScore found.2

def scoreLines (query key : String) : List String :=
  [Decimal.fixed 6 false (Score.composite query key), breakdownLine (Score.breakdown query key)]

def evaluationLines (scores : Evaluation.Scores Float) : List String :=
  (scores.recalls.map fun (k, x) => "Recall@" ++ toString k ++ ": " ++ shownScore x)
    ++ ["MRR: " ++ shownScore scores.mrr]

end DidYouMean.Command
