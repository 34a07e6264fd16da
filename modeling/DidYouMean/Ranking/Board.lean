import DidYouMean.Arith
import DidYouMean.Candidate

/-!
# The board of suggestions

While candidates are looked at in turn, the board holds the best suggestion for each identity.  A
later suggestion replaces an earlier one only if its final score is higher.

## Main definitions

- `Suggestion`, `Standing`: a suggestion, and its place in the pool
- `Board.offer`: puts a suggestion on the board if it is the best of its identity
- `Standing.before`: the order in which suggestions are returned
- `Board.ranked`: the suggestions in that order
-/

namespace DidYouMean

variable {α : Type} [Arith α]

/-- A symbol that the name asked for may stand for, and how close it is. -/
structure Suggestion (α : Type) where
  identityKey : String
  symbol : Symbol
  similarity : α
  final : α
  tier : Tier

/-- A suggestion and the place of its candidate in the pool. -/
structure Standing (α : Type) where
  order : Nat
  suggestion : Suggestion α

/-- The best suggestion so far for each identity. -/
abbrev Board (α : Type) := List (String × Standing α)

/-- Puts a suggestion on the board if its identity is new or its final score is higher than that
of the one that is there. -/
def Board.offer (board : Board α) (new : Standing α) : Board α :=
  let key := new.suggestion.identityKey
  match board.lookup key with
  | none => board ++ [(key, new)]
  | some old =>
    if old.suggestion.final < new.suggestion.final then
      board.map fun (k, s) => if k == key then (k, new) else (k, s)
    else board

/-- Whether a pair of scores and an order come before others: the higher final score first, then
the higher similarity, then the smaller order. -/
def comesBefore (final similarity : α) (order : Int) (final' similarity' : α) (order' : Int) :
    Bool :=
  if final' < final then true
  else if final < final' then false
  else if similarity' < similarity then true
  else if similarity < similarity' then false
  else order ≤ order'

/-- Whether a suggestion is returned before another one. -/
def Standing.before (a b : Standing α) : Bool :=
  comesBefore a.suggestion.final a.suggestion.similarity a.order
    b.suggestion.final b.suggestion.similarity b.order

/-- The suggestions on the board, the best first. -/
def Board.ranked (board : Board α) : List (Suggestion α) :=
  ((board.map (·.2)).mergeSort Standing.before).map (·.suggestion)

end DidYouMean
