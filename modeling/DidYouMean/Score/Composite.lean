import DidYouMean.Name.Tokens
import DidYouMean.Score.Weights
import DidYouMean.Similarity.Jaro

/-!
# Composite score

How close a candidate's name is to the name that was asked for: the similarity of the normal
forms, bonuses for equality, containment and shared words, and a penalty for extra length.  The
score is not confined to any interval; its users compare it with fixed thresholds.

## Main definitions

- `Breakdown`: the parts of a score, and `Breakdown.total`
- `breakdown`, `composite`: the parts and the score of a pair of names
- `isSelfMatch`: whether two names have the same normal form
-/

namespace DidYouMean.Score

variable {α : Type} [Arith α]

/-- The parts of a composite score. -/
structure Breakdown (α : Type) where
  base : α
  exact : α
  containment : α
  tokens : α
  penalty : α

/-- The score that the parts make up. -/
def Breakdown.total (b : Breakdown α) : α :=
  b.base + b.exact + b.containment + b.tokens - b.penalty

def occursIn (part : List Char) : List Char → Bool
  | [] => part.isEmpty
  | c :: rest => part.isPrefixOf (c :: rest) || occursIn part rest

/-- Whether one of the texts occurs in the other; an empty text contains nothing. -/
def contains (a b : List Char) : Bool :=
  !a.isEmpty && !b.isEmpty && (occursIn a b || occursIn b a)

/-- How two words match, if they do. -/
inductive WordMatch where
  | equal
  | partly
  deriving Repr, DecidableEq

/-- Equal words match; so do words of which one begins with the other. -/
def wordMatch? (a b : String) : Option WordMatch :=
  if a = b then some .equal
  else if b.toList.isPrefixOf a.toList || a.toList.isPrefixOf b.toList then some .partly
  else none

/-- The matches of the words of two names, query word by query word. -/
def wordMatches (query candidate : String) : List WordMatch :=
  let words := Name.distinctTokens candidate
  (Name.distinctTokens query).flatMap fun q => words.filterMap (wordMatch? q)

/-- The bonus of one match. -/
def WordMatch.bonus : WordMatch → α
  | .equal => tokenExactBonus
  | .partly => tokenPartialBonus

/-- The bonus for the words that two names share. -/
def tokenBonus (query candidate : String) : α :=
  let found := wordMatches query candidate
  let sum := found.foldl (fun sum m => sum + m.bonus) 0.0
  if multiTokenPairs ≤ found.length then sum + multiTokenBonus else sum

/-- The parts of a candidate's score. -/
def breakdown (query candidate : String) : Breakdown α :=
  let q := (Name.normalize query).toList
  let c := (Name.normalize candidate).toList
  { base := Similarity.jaroWinkler q c
    exact := if q = c then exactBonus else 0.0
    containment := if contains q c then containmentBonus else 0.0
    tokens := tokenBonus query candidate
    penalty := Arith.ofCount (candidate.length - query.length) * lengthPenalty }

def composite (query candidate : String) : α :=
  (breakdown query candidate).total

/-- Whether a candidate is the query itself in another spelling. -/
def isSelfMatch (query candidate : String) : Bool :=
  Name.normalize query == Name.normalize candidate

end DidYouMean.Score
