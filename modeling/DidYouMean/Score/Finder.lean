import DidYouMean.Limit
import DidYouMean.Score.Composite

/-!
# Finding similar names

Flat lists of names ranked by composite score alone.  Names may repeat, and each occurrence is an
entry of its own; entries of equal score keep their order.

## Main definitions

- `best`: the highest-scoring entries of a list
- `similarNames`, `possibleExports`, `similarSymbols`: the three searches
-/

namespace DidYouMean.Score

variable {α β : Type} [Arith α]

/-- Sorts scored entries by score, the highest first. -/
def byScore (scored : List (β × α)) : List (β × α) :=
  scored.mergeSort fun a b => b.2 ≤ a.2

/-- The entries whose score is kept, the highest score first, up to the limit. -/
def best (score : β → α) (keep : α → Bool) (limit : Limit) (entries : List β) : List (β × α) :=
  let scored := entries.map fun e => (e, score e)
  limit.take (byScore (scored.filter fun e => keep e.2))

/-- The names most similar to the query; empty names are passed over. -/
def similarNames (query : String) (names : List String) (limit : Limit) : List (String × α) :=
  best (composite query) (fun s => leastScore ≤ s) limit (names.filter (· ≠ ""))

/-- The exported names that the query may stand for: like `similarNames`, but the least score
itself is not enough. -/
def possibleExports (query : String) (exports : Option (List String)) (limit : Limit) :
    List (String × α) :=
  match exports with
  | none => []
  | some names =>
    best (composite query) (fun s => leastScore < s) limit (names.filter (· ≠ ""))

/-- The entries whose key is most similar to the query.  The query itself as a key is passed
over: it would have been found already. -/
def similarSymbols (query : String) (entries : List (String × β)) (limit : Limit) :
    List ((String × β) × α) :=
  best (fun e => composite query e.1) (fun s => leastScore ≤ s) limit
    (entries.filter fun e => e.1 ≠ "" && e.1 ≠ query)

end DidYouMean.Score
