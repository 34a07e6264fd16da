import DidYouMean.Limit
import DidYouMean.Log
import DidYouMean.Pool
import DidYouMean.Ranking.Board
import DidYouMean.Ranking.Bonus

/-!
# Ranking candidates

The candidates of a pool that can stand where the name is used, ranked by how close they are to
it: score them, drop those below the least score and those that are the query itself, add the
bonuses, keep the best of each identity, sort, and cut off at the limit.

## Main definitions

- `Query`: what is asked for
- `Query.rank`: the suggestions for a list of candidates, with the counts on the way
- `Query.rankPool`: the same for a pool that is still to be read and checked
- `scorePool`: the similarity of each candidate, in the order of the pool
-/

namespace DidYouMean

variable {α : Type} [Arith α]

/-- What is asked for: a name, its use, what tells symbols apart, and how many answers. -/
structure Query where
  name : String
  usage : Usage
  identity : Symbol → String
  limit : Limit

def Query.ofName (name : String) : Query :=
  ⟨name, .unspecified, Symbol.identityKey, .usual⟩

/-- The suggestions, the number of candidates that fit the usage, of those of sufficient score,
and of the identities among which the suggestions were chosen. -/
structure Ranking (α : Type) where
  suggestions : List (Suggestion α)
  eligible : Nat
  above : Nat
  distinct : Nat

def Query.suggest (q : Query) (c : Candidate) (similarity : α) : Suggestion α :=
  ⟨q.identity c.symbol, c.symbol, similarity, finalScore c similarity, c.tier⟩

/-- Whether a candidate is what was asked for, by its key or by its identity. -/
def Query.isSelf (q : Query) (c : Candidate) : Bool :=
  Score.isSelfMatch q.name c.key || q.identity c.symbol == q.name

/-- The standings of the candidates that may be suggested: each with its order in the list. -/
def Query.standings (q : Query) (scored : List (Candidate × α)) : List (Standing α) :=
  (scored.zipIdx.filter fun ((c, s), _) => Score.leastScore ≤ s && !q.isSelf c).map
    fun ((c, s), order) => ⟨order, q.suggest c s⟩

def Query.rankEligible (q : Query) (eligible : List Candidate) : Ranking α :=
  let scored : List (Candidate × α) := eligible.map fun c => (c, Score.composite q.name c.key)
  let board : Board α := (q.standings scored).foldl Board.offer []
  { suggestions := q.limit.take board.ranked
    eligible := eligible.length
    above := (scored.filter fun (_, s) => Score.leastScore ≤ s).length
    distinct := board.length }

def Query.rank (q : Query) (candidates : List Candidate) : Ranking α :=
  if q.name = "" then ⟨[], 0, 0, 0⟩
  else q.rankEligible (candidates.filter fun c => q.usage.admits c.symbol)

/-- The number of workers if a caller names none. -/
def usualWorkers : Int := 1

/-- The least number of candidates that are shared out among several workers. -/
def leastSharedPool : Nat := 256

/-- The record that candidates are shared out among workers, if they are. -/
def workersLog (count : Nat) (workers : Option Int) : List Log.Record :=
  let workers := workers.getD usualWorkers
  if 1 < workers && leastSharedPool ≤ count then
    [⟨.debug, "Scoring " ++ toString count ++ " candidates on " ++ toString workers
      ++ " workers"⟩]
  else []

/-- The records of ranking. -/
def Query.log (q : Query) (workers : Option Int) (r : Ranking α) : List Log.Record :=
  if q.name = "" then []
  else if r.eligible = 0 then
    [⟨.debug, "No candidates fit usage " ++ q.usage.shown ++ " for '" ++ q.name ++ "'"⟩]
  else
    workersLog r.eligible workers ++
      [⟨.debug, "Ranked '" ++ q.name ++ "': " ++ toString r.eligible ++ " eligible, "
        ++ toString r.above ++ " above threshold, " ++ toString r.distinct ++ " distinct, "
        ++ toString r.suggestions.length ++ " returned"⟩]

/-- What comes of ranking a pool: how many entries were read, the records, and the ranking. -/
structure PoolRanking (α : Type) where
  consumed : Nat
  log : List Log.Record
  result : Except Refusal (Ranking α)

/-- Ranks a pool that is still to be read.  Nothing is read for an empty query. -/
def Query.rankPool (q : Query) (workers : Option Int) (pool : List Pull) : PoolRanking α :=
  if q.name = "" then ⟨0, [], .ok ⟨[], 0, 0, 0⟩⟩
  else
    let sweep := checkPool q.usage pool
    match sweep.failure with
    | some refusal => ⟨sweep.consumed, [], .error refusal⟩
    | none =>
      let ranking := q.rankEligible (sweep.kept.map (·.1))
      ⟨sweep.consumed, q.log workers ranking, .ok ranking⟩

/-- The similarity of each candidate to a name. -/
def scorePool (name : String) (candidates : List Candidate) : List (Candidate × α) :=
  candidates.map fun c => (c, Score.composite name c.key)

end DidYouMean
