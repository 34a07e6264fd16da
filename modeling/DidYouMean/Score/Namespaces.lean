import DidYouMean.Name.Segments
import DidYouMean.Score.Finder

/-!
# Finding namespaces

The known namespaces closest to a dotted name.  Names are compared as a whole first; only if none
is close enough are names of equally many segments compared segment by segment.

## Main definitions

- `segmentScore`: the mean score of matching segments
- `suggestNamespaces`: the search
-/

namespace DidYouMean.Score

variable {α : Type} [Arith α]

/-- The scores of the segments that match. -/
def matchingScores (query known : List String) : List α :=
  (List.zipWith composite query known).filter fun s => leastSegmentScore ≤ s

/-- The mean score of the matching segments; zero if too few of the query's segments match. -/
def segmentScore (query known : List String) : α :=
  let scores : List α := matchingScores query known
  if scores.isEmpty || ratio scores.length query.length < (leastSegmentShare : α) then 0.0
  else scores.foldl (· + ·) 0.0 / Arith.ofCount scores.length

/-- The known namespaces that are close to the query as a whole. -/
def wholeMatches (query : String) (known : List String) : List (String × α) :=
  (known.map fun n => (n, composite query n)).filter fun e => leastNamespaceScore ≤ e.2

/-- The known namespaces with as many segments as the query of which enough match. -/
def segmentMatches (query : String) (known : List String) : List (String × α) :=
  let parts := Name.segments query
  let alike := known.filter fun n => (Name.segments n).length == parts.length
  (alike.map fun n => (n, segmentScore parts (Name.segments n))).filter fun e => (0.0 : α) < e.2

/-- The namespaces closest to the query, without repeats. -/
def suggestNamespaces (query : String) (namespaces : List String) (limit : Limit) :
    List (String × α) :=
  if query = "" then []
  else
    let known := (namespaces.filter (· ≠ "")).eraseDups
    let whole : List (String × α) := wholeMatches query known
    let found :=
      if whole.isEmpty && 1 < (Name.segments query).length then segmentMatches query known
      else whole
    limit.take (byScore found)

end DidYouMean.Score
