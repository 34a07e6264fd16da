import DidYouMean.Candidate
import DidYouMean.Refusal
import DidYouMean.Usage

/-!
# Candidate pools

A pool is read lazily and once.  Each entry is built when it is pulled, which may be refused, and
callers may slip in entries that are no candidates.

## Main definitions

- `PoolItem`, `Pull`: an entry of a pool, and what pulling one gives
- `Sweep`: the candidates that fit a usage, and how far the pool was read
- `filterPool`, `checkPool`: reading a pool with and without the check that entries are candidates
-/

namespace DidYouMean

open Json (Value)

/-- An entry of a pool: a candidate, a plain value, or an object of any other type.  None but a
candidate holds a symbol. -/
inductive PoolItem where
  | candidate (c : Candidate)
  | foreign (given : Value)
  | object (typeName : String)

/-- What pulling an entry gives. -/
abbrev Pull := Except Refusal PoolItem

/-- The candidates kept, each with the number of entries read when it was found; the number of
entries read in all; and what ended the reading before its time. -/
structure Sweep where
  kept : List (Candidate × Nat)
  consumed : Nat
  failure : Option Refusal

/-- Reads a pool of which `consumed` entries are read already, and keeps the candidates that fit
the usage.  An entry that is no candidate ends the reading with what `onForeign` makes of its type. -/
def sweepFrom (onForeign : String → Refusal) (usage : Usage) (consumed : Nat) :
    List Pull → Sweep
  | [] => ⟨[], consumed, none⟩
  | .error refusal :: _ => ⟨[], consumed + 1, some refusal⟩
  | .ok (.foreign v) :: _ => ⟨[], consumed + 1, some (onForeign v.typeName)⟩
  | .ok (.object typeName) :: _ => ⟨[], consumed + 1, some (onForeign typeName)⟩
  | .ok (.candidate c) :: rest =>
    let later := sweepFrom onForeign usage (consumed + 1) rest
    if usage.admits c.symbol then { later with kept := (c, consumed + 1) :: later.kept }
    else later

/-- Keeps the candidates that fit the usage, taking each entry for a candidate. -/
def filterPool (usage : Usage) (pool : List Pull) : Sweep :=
  sweepFrom (.missingAttribute · "value") usage 0 pool

/-- Keeps the candidates that fit the usage, checking that each entry is a candidate. -/
def checkPool (usage : Usage) (pool : List Pull) : Sweep :=
  sweepFrom (fun typeName => .contract (.notACandidate typeName)) usage 0 pool

end DidYouMean
