import DidYouMean.Proofs.Ranking.Suggestions
import DidYouMean.Proofs.Similarity.Symmetry

/-!
# Reading a pool

Whether a pool can be ranked depends on nothing but its entries being candidates.  The first entry
that is none ends the reading, wherever it stands and whatever was kept before it; without such an
entry the pool is read to its end and ranked, since nothing is missing that the scores are computed
from.

## Main definitions

- `PoolItem.foreignType?`: the type of an entry that is no candidate
- `Query.Scorable`: all is there from which the score of a candidate is computed

## Main statements

- `sweepFrom_candidates_append`: candidates at the front of a pool are read and passed
- `CandidateParts.provenance_of_build`: candidates are only built with a tier
- `Query.exists_violation_iff`: a pool is refused if and only if some entry is no candidate
- `Query.rankPool_error_iff_foreign`: what comes of ranking a pool of any entries
-/

namespace DidYouMean

variable {α : Type} [Arith α]

/-- The type of an entry that is no candidate. -/
def PoolItem.foreignType? : PoolItem → Option String
  | .candidate _ => none
  | .foreign v => some v.typeName
  | .object typeName => some typeName

section Sweep

variable (onForeign : String → Refusal) (usage : Usage)

/-- Candidates at the front of a pool are read, whether they are kept or not. -/
theorem sweepFrom_candidates_append (consumed : Nat) (front : List Candidate) (rest : List Pull) :
    let sweep := sweepFrom onForeign usage consumed
      (front.map (fun c => .ok (.candidate c)) ++ rest)
    let later := sweepFrom onForeign usage (consumed + front.length) rest
    sweep.consumed = later.consumed ∧ sweep.failure = later.failure := by
  induction front generalizing consumed with
  | nil => exact ⟨rfl, rfl⟩
  | cons c front ih =>
    have hlength : consumed + (c :: front).length = consumed + 1 + front.length := by
      rw [List.length_cons]
      omega
    have hlater := ih (consumed + 1)
    rw [← hlength] at hlater
    simp only [List.map_cons, List.cons_append, sweepFrom]
    split
    · exact hlater
    · exact hlater

theorem sweepFrom_of_foreignType? {item : PoolItem} {typeName : String}
    (hitem : item.foreignType? = some typeName) (consumed : Nat) (rest : List Pull) :
    sweepFrom onForeign usage consumed (.ok item :: rest) =
      ⟨[], consumed + 1, some (onForeign typeName)⟩ := by
  cases item with
  | candidate c => cases hitem
  | foreign v =>
    cases hitem
    rfl
  | object name =>
    cases hitem
    rfl

/-- The first entry that is no candidate ends the reading; what follows it is not read. -/
theorem sweepFrom_foreign {item : PoolItem} {typeName : String}
    (hitem : item.foreignType? = some typeName) (front : List Candidate) (rest : List Pull) :
    let sweep := sweepFrom onForeign usage 0
      (front.map (fun c => .ok (.candidate c)) ++ .ok item :: rest)
    sweep.consumed = front.length + 1 ∧ sweep.failure = some (onForeign typeName) := by
  obtain ⟨hconsumed, hfailure⟩ := sweepFrom_candidates_append onForeign usage 0 front
    (.ok item :: rest)
  rw [Nat.zero_add, sweepFrom_of_foreignType? onForeign usage hitem] at hconsumed hfailure
  exact ⟨hconsumed, hfailure⟩

end Sweep

/-- A pool holds nothing but candidates, or it has a first entry that is none. -/
theorem candidates_or_foreign (pool : List PoolItem) :
    (∃ candidates : List Candidate, pool = candidates.map .candidate) ∨
      ∃ (front : List Candidate) (item : PoolItem) (rest : List PoolItem) (typeName : String),
        pool = front.map .candidate ++ item :: rest ∧ item.foreignType? = some typeName := by
  induction pool with
  | nil => exact .inl ⟨[], rfl⟩
  | cons item pool ih =>
    cases hitem : item.foreignType? with
    | some typeName => exact .inr ⟨[], item, pool, typeName, rfl, hitem⟩
    | none =>
      cases item with
      | foreign v => cases hitem
      | object name => cases hitem
      | candidate c =>
        rcases ih with ⟨candidates, rfl⟩ | ⟨front, other, rest, typeName, rfl, hother⟩
        · exact .inl ⟨c :: candidates, rfl⟩
        · exact .inr ⟨c :: front, other, rest, typeName, rfl, hother⟩

/-- A candidate is only built with a tier, which is its own. -/
theorem CandidateParts.provenance_of_build {parts : CandidateParts} {c : Candidate}
    (h : parts.build = .ok c) : parts.provenance = .known (.tier c.tier) := by
  obtain ⟨key, symbol, provenance⟩ := parts
  rw [build] at h
  dsimp only at h
  split at h
  · cases h
    rfl
  all_goals cases h

/-- Nothing is missing from which the score of a candidate is computed: there is a marked character
opposite each marked one, and there is a bonus for the tier that the candidate was built with. -/
structure Query.Scorable (α : Type) [Arith α] (q : Query) (c : Candidate) : Prop where
  transpositions :
    let left := (Name.normalize q.name).toList
    let right := (Name.normalize c.key).toList
    ∃ n, Similarity.transpositions? left right (Similarity.findMatches left right
      (Similarity.matchDistance left right)) = some n
  bonus : ∀ parts : CandidateParts, parts.build = .ok c →
    statedTierBonus parts.provenance = .ok (c.tier.bonus : α)

theorem Query.scorable (q : Query) (c : Candidate) : q.Scorable α c where
  transpositions := ⟨_, Similarity.transpositions?_findMatches _ _ _⟩
  bonus parts hbuild := by
    rw [parts.provenance_of_build hbuild]
    rfl

namespace Query

variable (q : Query) (workers : Option Int)

/-- The first entry that is no candidate is refused for its type, whatever stands before it. -/
theorem rankPool_of_foreign (hname : q.name ≠ "") {item : PoolItem} {typeName : String}
    (hitem : item.foreignType? = some typeName) (front : List Candidate) (rest : List PoolItem) :
    (q.rankPool workers ((front.map PoolItem.candidate ++ item :: rest).map .ok) :
      PoolRanking α) = ⟨front.length + 1, [], .error (.contract (.notACandidate typeName))⟩ := by
  obtain ⟨hconsumed, hfailure⟩ := sweepFrom_foreign
    (fun typeName => .contract (.notACandidate typeName)) q.usage hitem front (rest.map .ok)
  have hpool : ((front.map PoolItem.candidate ++ item :: rest).map .ok : List Pull) =
      front.map (fun c => .ok (.candidate c)) ++ .ok item :: rest.map .ok := by
    rw [List.map_append, List.map_map, List.map_cons]
    rfl
  rw [rankPool, if_neg hname, checkPool, hpool]
  simp only [hconsumed, hfailure]

theorem consumed_rankPool_candidates (hname : q.name ≠ "") (pool : List Candidate) :
    (q.rankPool workers (pool.map fun c => .ok (.candidate c)) : PoolRanking α).consumed =
      pool.length := by
  obtain ⟨hfailure, hconsumed, -⟩ := sweepFrom_candidates
    (fun typeName => .contract (.notACandidate typeName)) q.usage 0 pool
  rw [Nat.zero_add] at hconsumed
  rw [rankPool, if_neg hname, checkPool]
  simp only [hfailure, hconsumed]

/-- A pool of candidates is read to its end and ranked. -/
theorem rankPool_of_candidates (hname : q.name ≠ "") (candidates : List Candidate) :
    let done : PoolRanking α := q.rankPool workers ((candidates.map PoolItem.candidate).map .ok)
    done.consumed = candidates.length ∧ done.result = .ok (q.rank candidates) := by
  rw [List.map_map]
  exact ⟨q.consumed_rankPool_candidates workers hname candidates,
    q.rankPool_candidates candidates hname workers⟩

/-- A pool is refused if and only if some entry is no candidate. -/
theorem exists_violation_iff (hname : q.name ≠ "") (pool : List PoolItem) :
    (∃ violation, (q.rankPool workers (pool.map .ok) : PoolRanking α).result =
      .error (.contract violation)) ↔ ∃ item ∈ pool, ∀ c, item ≠ .candidate c := by
  rcases candidates_or_foreign pool with
    ⟨candidates, rfl⟩ | ⟨front, item, rest, typeName, rfl, hitem⟩
  · constructor
    · rintro ⟨violation, herror⟩
      rw [(q.rankPool_of_candidates workers hname candidates).2] at herror
      cases herror
    · rintro ⟨item, hmem, hitem⟩
      obtain ⟨c, -, rfl⟩ := List.mem_map.mp hmem
      exact absurd rfl (hitem c)
  · constructor
    · intro _
      refine ⟨item, by simp, ?_⟩
      rintro c rfl
      cases hitem
    · intro _
      refine ⟨.notACandidate typeName, ?_⟩
      rw [q.rankPool_of_foreign workers hname hitem]

/-- For an empty query nothing is read.  Otherwise ranking is refused if and only if some entry is no
candidate; it has then read the pool up to the first of these, and the message names its type.  A pool
of candidates is read to its end and ranked. -/
theorem rankPool_error_iff_foreign (pool : List PoolItem) :
    let done : PoolRanking α := q.rankPool workers (pool.map .ok)
    (q.name = "" → done.consumed = 0 ∧ ∃ r, done.result = .ok r ∧ r.suggestions = []) ∧
    (q.name ≠ "" →
      ((∃ violation, done.result = .error (.contract violation)) ↔
        ∃ item ∈ pool, ∀ c, item ≠ .candidate c) ∧
      (∀ (front : List Candidate) (item : PoolItem) (rest : List PoolItem) (typeName : String),
        pool = front.map .candidate ++ item :: rest → item.foreignType? = some typeName →
        done.consumed = front.length + 1 ∧
        ∃ violation, done.result = .error (.contract violation) ∧
          violation.message = "expected Candidate, got " ++ typeName) ∧
      (∀ candidates : List Candidate, pool = candidates.map .candidate →
        done.consumed = pool.length ∧ done.result = .ok (q.rank candidates) ∧
        ∀ c ∈ candidates, q.Scorable α c)) := by
  intro done
  refine ⟨fun hname => ?_, fun hname => ⟨q.exists_violation_iff workers hname pool, ?_, ?_⟩⟩
  · have hdone : done = ⟨0, [], .ok ⟨[], 0, 0, 0⟩⟩ := q.rankPool_of_empty hname workers _
    rw [hdone]
    exact ⟨rfl, _, rfl, rfl⟩
  · rintro front item rest typeName rfl hitem
    have hdone : done = ⟨front.length + 1, [], .error (.contract (.notACandidate typeName))⟩ :=
      q.rankPool_of_foreign workers hname hitem front rest
    rw [hdone]
    exact ⟨rfl, _, rfl, rfl⟩
  · rintro candidates rfl
    obtain ⟨hconsumed, hresult⟩ : done.consumed = candidates.length ∧
        done.result = .ok (q.rank candidates) := q.rankPool_of_candidates workers hname candidates
    rw [List.length_map]
    exact ⟨hconsumed, hresult, fun c _ => q.scorable c⟩

end Query

/-- The first entry is a candidate that the usage drops; the third one is never read. -/
theorem rankPool_error_iff_foreign_colour :
    let q : Query := ⟨"Colour", .position .attribute, Symbol.identityKey, .usual⟩
    let pool : List PoolItem := [.candidate (.ofName "Color"), .object "Symbol", .foreign .null]
    let done : PoolRanking Float := q.rankPool none (pool.map .ok)
    q.name ≠ "" ∧
      pool = [Candidate.ofName "Color"].map .candidate ++ .object "Symbol" :: [.foreign .null] ∧
      (PoolItem.object "Symbol").foreignType? = some "Symbol" ∧
      done.consumed = 2 ∧ ∃ violation, done.result = .error (.contract violation) ∧
        violation.message = "expected Candidate, got Symbol" := by
  intro q pool done
  have hname : q.name ≠ "" := by decide
  have hpool : pool =
      [Candidate.ofName "Color"].map .candidate ++ .object "Symbol" :: [.foreign .null] := rfl
  have hitem : (PoolItem.object "Symbol").foreignType? = some "Symbol" := rfl
  obtain ⟨-, hfirst, -⟩ := (@Query.rankPool_error_iff_foreign Float _ q none pool).2 hname
  exact ⟨hname, hpool, hitem, hfirst _ _ _ _ hpool hitem⟩

end DidYouMean
