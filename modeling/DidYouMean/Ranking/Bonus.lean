import DidYouMean.Score.Composite
import DidYouMean.Symbol.Construction

/-!
# Bonuses

What a candidate's score gains before candidates are ranked: a bonus for a near tier, and one for
a very common type if the name is nearly right anyway.

## Main definitions

- `Tier.bonus`, `wellKnownBonus`: the bonuses
- `statedTierBonus`: the bonus of a tier that may be any value
- `finalScore`: the similarity of a candidate with its bonuses
-/

namespace DidYouMean

open Json (Value)

variable {α : Type} [Arith α]

def Tier.bonus : Tier → α
  | .localScope => 0.3
  | .currentClass => 0.2
  | .currentProject => 0.1
  | .externalLibrary => 0.0

/-- The bonus of a tier as a caller states it; a word counts as the tier that is written so. -/
def statedTierBonus : Given Provenance → Except Refusal α
  | .known (.tier t) => .ok t.bonus
  | .known .unknown => .error (.contract (.noBonus "<ProvenanceTier.UNKNOWN: 'unknown'>"))
  | .foreign v =>
    match v with
    | .list _ | .object _ => .error (.notHashable v)
    | .text word =>
      match Tier.ofLabel? word with
      | some t => .ok t.bonus
      | none => .error (.contract (.noBonus v.shown))
    | _ => .error (.contract (.noBonus v.shown))

/-- The short names of very common types. -/
def wellKnownNames : List String := [
  "Array", "ConcurrentDictionary", "DateTime", "Dictionary", "Guid", "HashSet", "ICollection",
  "IDictionary", "IEnumerable", "IList", "List", "Queue", "Stack", "String", "StringBuilder",
  "Task", "TimeSpan"]

/-- The bonus of a very common type. -/
def wellKnownWeight : α := 0.25

/-- The least similarity at which it is given. -/
def leastWellKnownSimilarity : α := 0.8

/-- The bonus of a symbol for being very common, given its similarity to the query. -/
def wellKnownBonus (s : Symbol) (similarity : α) : α :=
  if similarity < leastWellKnownSimilarity then 0.0
  else if wellKnownNames.contains s.shortName then wellKnownWeight
  else 0.0

/-- The score by which a candidate of the given similarity is ranked. -/
def finalScore (c : Candidate) (similarity : α) : α :=
  similarity + c.tier.bonus + wellKnownBonus c.symbol similarity

end DidYouMean
