import DidYouMean.Proofs.Ranking.Raising
import DidYouMean.Proofs.Score.DoubleSum

/-!
# Nearer tiers

A candidate that is found in a nearer tier gets a higher bonus, and sums of doubles grow with what is
added.  So its final score is not lower, and its identity is suggested at the same place or an earlier
one, except where it falls behind.

## Main definitions

- `Tier.Nearer`: the order of tiers
- `Query.suggestedKeys`: the identities suggested from a pool, the best first

## Main statements

- `finalScore_le_of_nearer`: a nearer tier does not lower the final score
- `Query.rankPool_of_nearer_tier`: what becomes of the identity of a candidate in a nearer tier
-/

namespace DidYouMean

/-- A tier is a nearer place than another one. -/
def Tier.Nearer (t u : Tier) : Prop :=
  Tier.all.idxOf t < Tier.all.idxOf u

instance (t u : Tier) : Decidable (t.Nearer u) :=
  inferInstanceAs (Decidable (_ < _))

section Bonuses

variable {c : Candidate} {t : Tier} {similarity : Float}

theorem Tier.bonus_le_of_nearer {u : Tier} (h : t.Nearer u) : (u.bonus : Float) ≤ t.bonus := by
  revert h
  cases t <;> cases u <;> decide +kernel

/-- A nearer tier does not lower the final score, which is rounded twice. -/
theorem finalScore_le_of_nearer (hsim : Score.leastScore ≤ similarity) (h : t.Nearer c.tier) :
    finalScore c similarity ≤ finalScore { c with tier := t } similarity := by
  have hplus := hasPlus_of_leastScore_le hsim
  have hbonus := double_add_le_add_right (hasPlus_tierBonus c.tier) (hasPlus_tierBonus t) hplus
    (Tier.bonus_le_of_nearer h)
  rw [double_add_comm _ similarity, double_add_comm _ similarity] at hbonus
  exact double_add_le_add_right (hplus.add (hasPlus_tierBonus c.tier))
    (hplus.add (hasPlus_tierBonus t)) (hasPlus_wellKnownBonus c.symbol similarity) hbonus

end Bonuses

section Pools

variable {α : Type} [Arith α] (q : Query)

/-- Where a candidate was found does not matter to whether it may be suggested. -/
theorem Query.admits_tier_iff (c : Candidate) (t : Tier) :
    q.Admits α { c with tier := t } ↔ q.Admits α c :=
  ⟨fun h => ⟨h.fits, h.close, h.key_ne, h.identity_ne⟩,
    fun h => ⟨h.fits, h.close, h.key_ne, h.identity_ne⟩⟩

/-- One candidate of a pool adds its standing to those of the others, if it may be suggested. -/
theorem Query.exists_admitted_cons (front back : List Candidate) :
    ∃ xs ys : List (Standing α), ∀ c,
      (q.Admits α c → q.admitted (front ++ c :: back) = xs ++ q.standing c front.length :: ys) ∧
      (¬q.Admits α c → q.admitted (front ++ c :: back) = xs ++ ys) := by
  refine ⟨q.admitted front, ((back.zipIdx (front.length + 1)).filter fun e => q.Admits α e.1).map
    fun e => q.standing e.1 e.2, fun c => ?_⟩
  rw [admitted, List.zipIdx_append, List.zipIdx_cons, List.filter_append, List.map_append,
    Nat.zero_add]
  constructor
  · intro h
    rw [List.filter_cons_of_pos (by simpa using h)]
    rfl
  · intro h
    rw [List.filter_cons_of_neg (by simpa using h)]
    rfl

section Fields

variable (c : Candidate) (place : ℕ)

theorem Query.standing_identityKey :
    (q.standing c place : Standing α).suggestion.identityKey = q.identity c.symbol := rfl

theorem Query.standing_similarity :
    (q.standing c place : Standing α).suggestion.similarity = Score.composite q.name c.key := rfl

theorem Query.standing_final : (q.standing c place : Standing α).suggestion.final =
    finalScore c (Score.composite q.name c.key) := rfl

end Fields

theorem Query.standing_raisedTo {c : Candidate} {t : Tier} (hadmits : q.Admits Float c)
    (ht : t.Nearer c.tier) (place : ℕ) :
    (q.standing c place : Standing Float).RaisedTo (q.standing { c with tier := t } place) where
  order_eq := rfl
  key_eq := by rw [standing_identityKey, standing_identityKey]
  similarity_eq := by rw [standing_similarity, standing_similarity]
  not_lower := by
    rw [standing_final, standing_final]
    exact double_not_lt_of_le (finalScore_le_of_nearer hadmits.close ht)

/-- All scores that matter before and after one candidate is in another tier are numbers with a plus
sign. -/
theorem Query.linear_standing_cons (front back : List Candidate) (c c' : Candidate)
    (hmem : q.standing c' front.length ∈ (q.admitted (front ++ c' :: back) : List (Standing Float))) :
    Linear (comparedScores (q.standing c' front.length ::
      (q.admitted (front ++ c :: back) : List (Standing Float)))) := by
  refine linear_of_hasPlus fun x hx => ?_
  obtain ⟨s, hs, hx⟩ := List.mem_flatMap.mp hx
  rcases List.mem_cons.mp hs with rfl | hs
  · exact q.hasPlus_of_mem_comparedScores (List.mem_flatMap.mpr ⟨_, hmem, hx⟩)
  · exact q.hasPlus_of_mem_comparedScores (List.mem_flatMap.mpr ⟨s, hs, hx⟩)

/-- The identities suggested from a pool, the best first. -/
def Query.suggestedKeys (pool : List Candidate) : List String :=
  (q.rank pool : Ranking Float).suggestions.map (·.identityKey)

theorem Query.exists_isRanking_suggestedKeys (hname : q.name ≠ "") (hlimit : q.limit = none)
    (pool : List Candidate) : ∃ ranked, IsRanking (q.admitted pool : List (Standing Float)) ranked ∧
      q.suggestedKeys pool = ranked.map (·.suggestion.identityKey) := by
  obtain ⟨ranked, hranked, hsuggestions⟩ :=
    q.exists_isRanking pool hname (q.linear_admitted pool).toComparable
  refine ⟨ranked, hranked, ?_⟩
  rw [suggestedKeys, hsuggestions, hlimit, Limit.take, List.map_map]
  rfl

/-- A candidate whose tier becomes nearer keeps its identity among those suggested, and moves it to a
later place if and only if it falls behind. -/
theorem Query.suggestedKeys_of_nearer (hname : q.name ≠ "") (hlimit : q.limit = none)
    (front back : List Candidate) (c : Candidate) {t : Tier} (ht : t.Nearer c.tier) :
    let keys := q.suggestedKeys (front ++ c :: back)
    let keys' := q.suggestedKeys (front ++ { c with tier := t } :: back)
    let key := q.identity c.symbol
    (key ∈ keys ↔ key ∈ keys') ∧
      (keys.idxOf key < keys'.idxOf key ↔ q.Admits Float c ∧
        ∃ s u, (q.standing { c with tier := t } front.length : Standing Float).FallsBehind
          (q.admitted (front ++ c :: back)) s u) := by
  intro keys keys' key
  obtain ⟨ranked, hranked, hkeys⟩ :=
    q.exists_isRanking_suggestedKeys hname hlimit (front ++ c :: back)
  obtain ⟨ranked', hranked', hkeys'⟩ :=
    q.exists_isRanking_suggestedKeys hname hlimit (front ++ { c with tier := t } :: back)
  have horder := q.pairwise_order_admitted (α := Float) (front ++ c :: back)
  have horder' := q.pairwise_order_admitted (α := Float) (front ++ { c with tier := t } :: back)
  obtain ⟨xs, ys, hsplit⟩ := q.exists_admitted_cons (α := Float) front back
  have hadmits' := q.admits_tier_iff (α := Float) c t
  rw [show keys = _ from hkeys, show keys' = _ from hkeys']
  by_cases hadmits : q.Admits Float c
  · have hpool := (hsplit c).1 hadmits
    have hpool' := (hsplit { c with tier := t }).1 (hadmits'.mpr hadmits)
    have ord := q.linear_standing_cons front back c { c with tier := t } (by rw [hpool']; simp)
    rw [hpool] at hranked horder ord ⊢
    rw [hpool'] at hranked' horder'
    have hmem : key ∈ ranked.map (·.suggestion.identityKey) := by
      obtain ⟨s, hs, hkey⟩ := hranked.covers (q.standing c front.length) (by simp)
      exact List.mem_map.mpr ⟨s, hs, hkey⟩
    have hmem' : key ∈ ranked'.map (·.suggestion.identityKey) := by
      obtain ⟨s, hs, hkey⟩ := hranked'.covers (q.standing { c with tier := t } front.length) (by simp)
      exact List.mem_map.mpr ⟨s, hs, hkey⟩
    rw [and_iff_right hadmits]
    exact ⟨iff_of_true hmem hmem', hranked.idxOf_lt_idxOf_iff
      (q.standing_raisedTo hadmits ht front.length) ord horder horder' hranked'⟩
  · have hsame := ((hsplit { c with tier := t }).2 (mt hadmits'.mp hadmits)).trans
      ((hsplit c).2 hadmits).symm
    rw [hsame] at hranked'
    rw [hranked'.unique (q.linear_admitted _).toComparable horder hranked]
    exact ⟨Iff.rfl, iff_of_false (lt_irrefl _) fun h => hadmits h.1⟩

/-- Ranking succeeds with a candidate in a nearer tier and without.  Its identity stays among those
suggested, and it moves to a later place if and only if the candidate now ties with what was suggested
for it before and has a lower similarity, so that another suggestion comes between the two. -/
theorem Query.rankPool_of_nearer_tier (hname : q.name ≠ "") (hlimit : q.limit = none)
    (workers : Option Int) (front back : List Candidate) (c : Candidate) (t : Tier)
    (ht : t.Nearer c.tier) :
    ∃ r r' : Ranking Float,
      (q.rankPool workers ((front ++ c :: back).map fun c => .ok (.candidate c))).result = .ok r ∧
      (q.rankPool workers ((front ++ { c with tier := t } :: back).map
        fun c => .ok (.candidate c))).result = .ok r' ∧
      let keys := r.suggestions.map (·.identityKey)
      let keys' := r'.suggestions.map (·.identityKey)
      let key := q.identity c.symbol
      (key ∈ keys ↔ key ∈ keys') ∧
      (keys.idxOf key < keys'.idxOf key ↔ q.Admits Float c ∧
        ∃ s u, (q.standing { c with tier := t } front.length : Standing Float).FallsBehind
          (q.admitted (front ++ c :: back)) s u) :=
  ⟨q.rank (front ++ c :: back), q.rank (front ++ { c with tier := t } :: back),
    q.rankPool_candidates _ hname workers, q.rankPool_candidates _ hname workers,
    q.suggestedKeys_of_nearer hname hlimit front back c ht⟩

end Pools

section Undercutting

/-- A query for `userNme` without a limit. -/
def userQuery : Query := ⟨"userNme", .unspecified, Symbol.identityKey, none⟩

/-- A symbol that is found under a key in lower case, in some tier. -/
def loweredUserId (t : Tier) : Candidate := ⟨"userid", .raw "UserId", t⟩

/-- The same symbol under its own name, and another one that is just as close. -/
def classUserIds : List Candidate :=
  [⟨"UserId", .raw "UserId", .currentClass⟩, ⟨"User_Id", .raw "User_Id", .currentClass⟩]

theorem rankPool_of_nearer_tier_userNme :
    let c := loweredUserId .currentProject
    userQuery.name ≠ "" ∧ userQuery.limit = none ∧ Tier.Nearer .localScope c.tier ∧
      ∃ r r' : Ranking Float,
        (userQuery.rankPool none (([] ++ c :: classUserIds).map
          fun c => .ok (.candidate c))).result = .ok r ∧
        (userQuery.rankPool none (([] ++ { c with tier := .localScope } :: classUserIds).map
          fun c => .ok (.candidate c))).result = .ok r' ∧
        let keys := r.suggestions.map (·.identityKey)
        let keys' := r'.suggestions.map (·.identityKey)
        let key := userQuery.identity c.symbol
        (key ∈ keys ↔ key ∈ keys') ∧
        (keys.idxOf key < keys'.idxOf key ↔ userQuery.Admits Float c ∧
          ∃ s u, (userQuery.standing { c with tier := .localScope } 0 : Standing Float).FallsBehind
            (userQuery.admitted ([] ++ c :: classUserIds)) s u) := by
  intro c
  have hname : userQuery.name ≠ "" := by decide
  have hnearer : Tier.Nearer .localScope c.tier := by decide
  exact ⟨hname, rfl, hnearer,
    userQuery.rankPool_of_nearer_tier hname rfl none [] classUserIds c .localScope hnearer⟩

section Values

/-- What is suggested for a bare name that is found under a key, if that has some similarity. -/
def bareStanding (place : ℕ) (key name : String) (t : Tier) (similarity : Float) :
    Standing Float :=
  ⟨place, ⟨name, .raw name, similarity, finalScore ⟨key, .raw name, t⟩ similarity, t⟩⟩

variable {key name : String} {similarity : Float}

theorem standing_eq_bareStanding (h : Score.composite "userNme" key = similarity) (place : ℕ)
    (name : String) (t : Tier) :
    userQuery.standing ⟨key, .raw name, t⟩ place = bareStanding place key name t similarity := by
  rw [← h]
  rfl

theorem admits_of_composite (h : Score.composite "userNme" key = similarity)
    (hsim : Score.leastScore ≤ similarity) (hkey : Name.normalize key ≠ Name.normalize "userNme")
    (hname : (Symbol.raw name).identityKey ≠ "userNme") (t : Tier) :
    userQuery.Admits Float ⟨key, .raw name, t⟩ := by
  rw [← h] at hsim
  exact ⟨rfl, hsim, hkey, hname⟩

theorem composite_lowerKey : Score.composite "userNme" "userid" = (0.9476190476190476 : Float) := by
  decide +kernel

theorem composite_ownName : Score.composite "userNme" "UserId" = (1.0476190476190477 : Float) := by
  decide +kernel

theorem composite_otherName :
    Score.composite "userNme" "User_Id" = (1.0476190476190477 : Float) := by
  decide +kernel

/-- All three candidates may be suggested. -/
theorem admitted_userIds (t : Tier) :
    userQuery.admitted (loweredUserId t :: classUserIds) =
      [bareStanding 0 "userid" "UserId" t 0.9476190476190476,
        bareStanding 1 "UserId" "UserId" .currentClass 1.0476190476190477,
        bareStanding 2 "User_Id" "User_Id" .currentClass 1.0476190476190477] := by
  have hlower : userQuery.Admits Float ⟨"userid", .raw "UserId", t⟩ :=
    admits_of_composite composite_lowerKey (by decide +kernel) (by decide) (by decide) t
  have hown : userQuery.Admits Float ⟨"UserId", .raw "UserId", .currentClass⟩ :=
    admits_of_composite composite_ownName (by decide +kernel) (by decide) (by decide) _
  have hother : userQuery.Admits Float ⟨"User_Id", .raw "User_Id", .currentClass⟩ :=
    admits_of_composite composite_otherName (by decide +kernel) (by decide) (by decide) _
  rw [Query.admitted, loweredUserId, classUserIds]
  simp only [List.zipIdx_cons, List.zipIdx_nil, List.filter_cons, List.filter_nil, hlower, hown,
    hother, decide_true, if_true, List.map_cons, List.map_nil,
    standing_eq_bareStanding composite_lowerKey, standing_eq_bareStanding composite_ownName,
    standing_eq_bareStanding composite_otherName]

end Values

/-- In the local scope, the key in lower case undercuts the symbol's own name, and the other symbol
comes between the two. -/
theorem fallsBehind_userId : ∃ s u,
    (userQuery.standing (loweredUserId .localScope) 0 : Standing Float).FallsBehind
      (userQuery.admitted (loweredUserId .currentProject :: classUserIds)) s u := by
  rw [admitted_userIds, loweredUserId, standing_eq_bareStanding composite_lowerKey]
  refine ⟨bareStanding 1 "UserId" "UserId" .currentClass 1.0476190476190477,
    bareStanding 2 "User_Id" "User_Id" .currentClass 1.0476190476190477, ?_⟩
  exact {
    leads := ⟨by simp, by decide +kernel, by decide +kernel⟩
    other := ⟨by simp, by decide +kernel, by decide +kernel⟩
    key_eq := rfl
    key_ne := by decide
    undercuts := ⟨by decide, by decide +kernel, by decide +kernel⟩
    before := by rw [Standing.Precedes]; decide +kernel
    after := by rw [Standing.Precedes]; decide +kernel }

/-- The symbol `UserId` is suggested first while its key in lower case is in the project, and second
once that key is in the local scope. -/
theorem not_idxOf_le_of_nearer_tier : ¬∀ (name : String) (usage : Usage)
    (front back : List Candidate) (c : Candidate) (t : Tier) (r r' : Ranking Float),
    name ≠ "" → t.Nearer c.tier →
      (Query.rankPool ⟨name, usage, Symbol.identityKey, none⟩ none
        ((front ++ c :: back).map fun c => .ok (.candidate c))).result = .ok r →
      (Query.rankPool ⟨name, usage, Symbol.identityKey, none⟩ none
        ((front ++ { c with tier := t } :: back).map fun c => .ok (.candidate c))).result = .ok r' →
      (r'.suggestions.map (·.identityKey)).idxOf c.symbol.identityKey ≤
        (r.suggestions.map (·.identityKey)).idxOf c.symbol.identityKey := by
  intro h
  have hname : userQuery.name ≠ "" := by decide
  have hnearer : Tier.Nearer .localScope .currentProject := by decide
  have hle := h "userNme" .unspecified [] classUserIds (loweredUserId .currentProject) .localScope
    _ _ hname hnearer (userQuery.rankPool_candidates _ hname none)
    (userQuery.rankPool_candidates _ hname none)
  have hadmits : userQuery.Admits Float (loweredUserId .currentProject) :=
    admits_of_composite composite_lowerKey (by decide +kernel) (by decide) (by decide) _
  have hlater := (userQuery.suggestedKeys_of_nearer hname rfl [] classUserIds
    (loweredUserId .currentProject) hnearer).2.mpr ⟨hadmits, fallsBehind_userId⟩
  exact absurd hle (Nat.not_le_of_lt hlater)

end Undercutting

end DidYouMean
