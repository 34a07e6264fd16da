import DidYouMean.Proofs.Ranking.Additions

/-!
# Raising a standing

One standing of a row gets a final score that is not lower, and nothing else changes.  Then it leads
its identity or what led before does.  The identity does not move to a later place, unless the standing
ties with a later one that led before and has a higher similarity: it takes over from that one because
it comes first, and is ranked by its own similarity.

## Main definitions

- `Standing.RaisedTo`: the same candidate with a final score that is not lower
- `Standing.Undercuts`: a standing ties with a later one that has a higher similarity
- `Standing.FallsBehind`: so that another identity comes between the two

## Main statements

- `idxOf_map_eq_countP`: the position of a key in a sorted list, told by counting
- `undercuts_or_before`: what leads after a standing is raised
- `IsRanking.idxOf_lt_idxOf_iff`: when its identity moves to a later place
-/

namespace DidYouMean

section Lists

variable {β κ : Type} [DecidableEq κ] {key : β → κ} {r : β → β → Prop} {p p' : β → Bool}
variable {xs : List β} {x : β}

/-- In a sorted list, the position of a key is the number of the other entries that come before it. -/
theorem idxOf_map_eq_countP (hdistinct : xs.Pairwise fun x y => key x ≠ key y)
    (hsorted : xs.Pairwise r) (hx : x ∈ xs) (hbefore : ∀ y ∈ xs, r y x → p y)
    (hafter : ∀ y ∈ xs, r x y → ¬p y) :
    (xs.map key).idxOf (key x) = (xs.filter fun y => key y ≠ key x).countP p := by
  induction xs with
  | nil => cases hx
  | cons y ys ih =>
    obtain ⟨hkeys, hdistinct⟩ := List.pairwise_cons.mp hdistinct
    obtain ⟨hy, hsorted⟩ := List.pairwise_cons.mp hsorted
    rcases List.mem_cons.mp hx with rfl | hmem
    · have hnone : ∀ z ∈ ys.filter fun z => key z ≠ key x, ¬p z := by
        intro z hz
        have hz := List.mem_of_mem_filter hz
        exact hafter z (List.mem_cons_of_mem x hz) (hy z hz)
      rw [List.map_cons, List.idxOf_cons_self, List.filter_cons_of_neg (by simp),
        List.countP_eq_zero.mpr hnone]
    · have hne : key y ≠ key x := hkeys x hmem
      have hp : p y := hbefore y List.mem_cons_self (hy x hmem)
      rw [List.map_cons, List.idxOf_cons_ne _ hne, List.filter_cons_of_pos (by simpa using hne),
        List.countP_cons_of_pos hp]
      exact congrArg Nat.succ (ih hdistinct hsorted hmem
        (fun z hz => hbefore z (List.mem_cons_of_mem y hz))
        (fun z hz => hafter z (List.mem_cons_of_mem y hz)))

/-- A weaker condition holds for more entries if it holds for one of which the other does not. -/
theorem countP_lt_countP_iff (h : ∀ y ∈ xs, p y → p' y) :
    xs.countP p < xs.countP p' ↔ ∃ y ∈ xs, p' y ∧ ¬p y := by
  have hsplit : xs.countP p' = xs.countP p + xs.countP fun y => p' y && !p y := by
    induction xs with
    | nil => rfl
    | cons y ys ih =>
      have hy := h y List.mem_cons_self
      have hys := ih fun z hz => h z (List.mem_cons_of_mem y hz)
      rw [List.countP_cons, List.countP_cons, List.countP_cons, hys]
      cases hp : p y <;> cases hp' : p' y <;> simp_all <;> omega
  rw [hsplit, Nat.lt_add_right_iff_pos, List.countP_pos_iff]
  simp

end Lists

section Standings

variable {α : Type} [Arith α]

/-- The same candidate with a final score that is not lower. -/
structure Standing.RaisedTo (s s' : Standing α) : Prop where
  order_eq : s'.order = s.order
  key_eq : s'.suggestion.identityKey = s.suggestion.identityKey
  similarity_eq : s'.suggestion.similarity = s.suggestion.similarity
  not_lower : ¬s'.suggestion.final < s.suggestion.final

/-- A standing comes up to the final score of a later one that has a higher similarity. -/
structure Standing.Undercuts (s t : Standing α) : Prop where
  earlier : s.order < t.order
  tied : s.suggestion.final = t.suggestion.final
  lessSimilar : s.suggestion.similarity < t.suggestion.similarity

/-- A standing undercuts what leads its identity, `t`, but the one that leads another identity, `u`,
comes between the two. -/
structure Standing.FallsBehind (s : Standing α) (seen : List (Standing α)) (t u : Standing α) :
    Prop where
  leads : t.Leads seen
  other : u.Leads seen
  key_eq : t.suggestion.identityKey = s.suggestion.identityKey
  key_ne : u.suggestion.identityKey ≠ s.suggestion.identityKey
  undercuts : s.Undercuts t
  before : t.Precedes u
  after : u.Precedes s

/-- Only the standings of its identity matter to what leads. -/
theorem Standing.Leads.congr {seen seen' : List (Standing α)} {s : Standing α} (h : s.Leads seen)
    (hsame : ∀ t, t.suggestion.identityKey = s.suggestion.identityKey → (t ∈ seen ↔ t ∈ seen')) :
    s.Leads seen' where
  mem := (hsame s rfl).mp h.mem
  highest t ht hkey := h.highest t ((hsame t hkey).mpr ht) hkey
  earliest t ht hkey := h.earliest t ((hsame t hkey).mpr ht) hkey

omit [Arith α] in
theorem mem_of_mem_of_ne {xs ys : List (Standing α)} {s s' t : Standing α}
    (h : t ∈ xs ++ s :: ys) (hne : t ≠ s) : t ∈ xs ++ s' :: ys := by
  simp only [List.mem_append, List.mem_cons, hne, false_or] at h ⊢
  exact h.imp_right .inr

omit [Arith α] in
theorem mem_cons_of_mem_raised {xs ys : List (Standing α)} {s s' t : Standing α}
    (h : t ∈ xs ++ s' :: ys) : t ∈ s' :: (xs ++ s :: ys) := by
  by_cases heq : t = s'
  · rw [heq]
    exact List.mem_cons_self
  · exact List.mem_cons_of_mem s' (mem_of_mem_of_ne h heq)

section Raised

variable {xs ys : List (Standing α)} {s s' t t' : Standing α}
variable (hraise : s.RaisedTo s')
variable (ord : Linear (comparedScores (s' :: (xs ++ s :: ys))))
variable (horder : (xs ++ s :: ys).Pairwise fun s t => s.order < t.order)
variable (ht : t.Leads (xs ++ s :: ys)) (ht' : t'.Leads (xs ++ s' :: ys))
variable (hkey : t.suggestion.identityKey = s.suggestion.identityKey)
variable (hkey' : t'.suggestion.identityKey = s.suggestion.identityKey)

include hraise ord horder ht ht' hkey hkey'

/-- After a standing is raised, it leads its identity or what led before does. -/
theorem eq_or_eq_of_leads : t' = s' ∨ t' = t := by
  by_cases heq : t' = s'
  · exact .inl heq
  have hmem : t' ∈ xs ++ s :: ys := mem_of_mem_of_ne ht'.mem heq
  have hscore := final_mem_comparedScores (List.mem_cons_of_mem s' hmem)
  have hscore' : s'.suggestion.final ∈ comparedScores (s' :: (xs ++ s :: ys)) :=
    final_mem_comparedScores List.mem_cons_self
  have hscore₀ : s.suggestion.final ∈ comparedScores (s' :: (xs ++ s :: ys)) :=
    final_mem_comparedScores (by simp)
  have hsame : s'.suggestion.identityKey = t'.suggestion.identityKey :=
    hraise.key_eq.trans hkey'.symm
  -- what is true of the raised standing is all the more true of the one that it was
  have hlead : t'.Leads (xs ++ s :: ys) := by
    refine ⟨hmem, fun u hu huk => ?_, fun u hu huk hlow => ?_⟩
    · by_cases hus : u = s
      · rw [hus]
        exact ord.negTrans _ hscore _ hscore' _ hscore₀ (ht'.highest s' (by simp) hsame)
          hraise.not_lower
      · exact ht'.highest u (mem_of_mem_of_ne hu hus) huk
    · by_cases hus : u = s
      · rw [hus] at hlow
        rw [hus, ← hraise.order_eq]
        exact ht'.earliest s' (by simp) hsame
          (ord.negTrans _ hscore' _ hscore₀ _ hscore hraise.not_lower hlow)
      · exact ht'.earliest u (mem_of_mem_of_ne hu hus) huk hlow
  exact .inr (hlead.eq ht horder (hkey'.trans hkey.symm))

/-- What undercuts what led before leads now. -/
theorem eq_of_undercuts (h : s'.Undercuts t) : t' = s' := by
  rcases eq_or_eq_of_leads hraise ord horder ht ht' hkey hkey' with heq | rfl
  · exact heq
  · have hscore' : s'.suggestion.final ∈ comparedScores (s' :: (xs ++ s :: ys)) :=
      final_mem_comparedScores List.mem_cons_self
    have htied : ¬s'.suggestion.final < t'.suggestion.final := by
      rw [← h.tied]
      exact ord.irrefl hscore'
    have hle := ht'.earliest s' (by simp) (hraise.key_eq.trans hkey'.symm) htied
    exact absurd h.earlier (Nat.not_lt_of_le hle)

/-- What leads after a standing is raised comes before what led, unless it undercuts it. -/
theorem undercuts_or_before : t' = s' ∧ s'.Undercuts t ∨ t'.before t := by
  rcases eq_or_eq_of_leads hraise ord horder ht ht' hkey hkey' with rfl | rfl
  · have hfinal : ¬t'.suggestion.final < t.suggestion.final := by
      by_cases hts : t = s
      · rw [hts]
        exact hraise.not_lower
      · exact ht'.highest t (mem_of_mem_of_ne ht.mem hts) (hkey.trans hkey'.symm)
    by_cases hhigher : t.suggestion.final < t'.suggestion.final
    · exact .inr (Standing.before_iff.mpr (.inl hhigher))
    have hle : t'.order ≤ t.order := by
      by_cases hts : t = s
      · rw [hts, hraise.order_eq]
      · exact ht'.earliest t (mem_of_mem_of_ne ht.mem hts) (hkey.trans hkey'.symm) hhigher
    by_cases hsimilar : t'.suggestion.similarity < t.suggestion.similarity
    · refine .inl ⟨rfl, Nat.lt_of_le_of_ne hle fun heq => ?_, ?_, hsimilar⟩
      · have hts : t = s := eq_of_order_eq horder ht.mem (by simp) (heq.symm.trans hraise.order_eq)
        rw [hts, hraise.similarity_eq] at hsimilar
        exact ord.irrefl (similarity_mem_comparedScores (by simp)) hsimilar
      · exact ord.eq_of_not_lt _ (final_mem_comparedScores List.mem_cons_self) _
          (final_mem_comparedScores (List.mem_cons_of_mem _ ht.mem)) hfinal hhigher
    · exact .inr (Standing.before_iff.mpr (.inr ⟨hfinal, .inr ⟨hsimilar, hle⟩⟩))
  · exact .inr (Standing.before_self ord.toComparable (List.mem_cons_of_mem _ ht.mem))

end Raised

theorem Standing.Undercuts.precedes {seen : List (Standing α)} {s t : Standing α}
    (h : s.Undercuts t) (ord : Comparable (comparedScores seen)) (ht : t ∈ seen) : t.Precedes s := by
  refine .inr ⟨?_, .inl h.lessSimilar⟩
  rw [h.tied]
  exact ord.irrefl (final_mem_comparedScores ht)

/-- The place of an identity in a ranking, told by counting what comes before its leading standing. -/
theorem IsRanking.idxOf_eq_countP {seen ranked : List (Standing α)} {s : Standing α}
    (h : IsRanking seen ranked) (ord : Comparable (comparedScores seen)) (hs : s ∈ ranked) :
    (ranked.map (·.suggestion.identityKey)).idxOf s.suggestion.identityKey =
      (ranked.filter fun t => t.suggestion.identityKey ≠ s.suggestion.identityKey).countP
        (·.before s) := by
  refine idxOf_map_eq_countP h.distinct h.sorted hs (fun t _ hts => hts.before) ?_
  intro t ht hst
  exact hst.not_before ord (h.leads s hs).mem (h.leads t ht).mem

/-- Rankings of rows with the same standings of some identities have the same entries for these. -/
theorem IsRanking.perm_filter {seen seen' ranked ranked' : List (Standing α)}
    (h : IsRanking seen ranked) (h' : IsRanking seen' ranked') (own : String → Bool)
    (horder : seen.Pairwise fun s t => s.order < t.order)
    (horder' : seen'.Pairwise fun s t => s.order < t.order)
    (hsame : ∀ t, own t.suggestion.identityKey → (t ∈ seen ↔ t ∈ seen')) :
    (ranked.filter fun t => own t.suggestion.identityKey).Perm
      (ranked'.filter fun t => own t.suggestion.identityKey) := by
  rw [List.perm_ext_iff_of_nodup (h.nodup.filter _) (h'.nodup.filter _)]
  intro t
  rw [List.mem_filter, List.mem_filter, h.mem_iff horder, h'.mem_iff horder']
  refine and_congr_left fun hown => ⟨fun hlead => ?_, fun hlead => ?_⟩
  · exact hlead.congr fun u hu => hsame u (hu ▸ hown)
  · exact hlead.congr fun u hu => (hsame u (hu ▸ hown)).symm

section Rankings

variable {xs ys ranked ranked' : List (Standing α)} {s s' t t' : Standing α}
variable (hraise : s.RaisedTo s')
variable (ord : Linear (comparedScores (s' :: (xs ++ s :: ys))))
variable (horder : (xs ++ s :: ys).Pairwise fun s t => s.order < t.order)
variable (horder' : (xs ++ s' :: ys).Pairwise fun s t => s.order < t.order)
variable (h : IsRanking (xs ++ s :: ys) ranked) (h' : IsRanking (xs ++ s' :: ys) ranked')

include hraise ord horder horder' h h' in
/-- The place of the identity that is raised, told by counting in the ranking before. -/
theorem IsRanking.idxOf_raised (ht' : t' ∈ ranked')
    (hkey' : t'.suggestion.identityKey = s.suggestion.identityKey) :
    (ranked'.map (·.suggestion.identityKey)).idxOf s.suggestion.identityKey =
      (ranked.filter fun u => u.suggestion.identityKey ≠ s.suggestion.identityKey).countP
        (·.before t') := by
  have hordNew : Comparable (comparedScores (xs ++ s' :: ys)) :=
    ord.toComparable.of_mem fun u hu => mem_cons_of_mem_raised hu
  have hothers : (ranked'.filter fun u => u.suggestion.identityKey ≠ s.suggestion.identityKey).Perm
      (ranked.filter fun u => u.suggestion.identityKey ≠ s.suggestion.identityKey) := by
    refine h'.perm_filter h (fun k => k ≠ s.suggestion.identityKey) horder' horder ?_
    intro u hu
    have hne : u ≠ s := by rintro rfl; simp at hu
    have hne' : u ≠ s' := by rintro rfl; simp [hraise.key_eq] at hu
    exact ⟨fun hmem => mem_of_mem_of_ne hmem hne', fun hmem => mem_of_mem_of_ne hmem hne⟩
  have hplace := h'.idxOf_eq_countP hordNew ht'
  rwa [hkey', hothers.countP_eq] at hplace

include hraise ord horder h in
/-- What falls behind is overtaken by what comes between it and what it undercuts. -/
theorem IsRanking.exists_between_iff (ht : t ∈ ranked)
    (hkey : t.suggestion.identityKey = s.suggestion.identityKey) (hundercuts : s'.Undercuts t) :
    (∃ u ∈ ranked.filter fun u => u.suggestion.identityKey ≠ s.suggestion.identityKey,
      u.before s' ∧ ¬u.before t) ↔ ∃ t u, s'.FallsBehind (xs ++ s :: ys) t u := by
  have hlead := h.leads t ht
  have hord : Comparable (comparedScores (xs ++ s :: ys)) :=
    ord.toComparable.of_mem fun u hu => List.mem_cons_of_mem s' hu
  constructor
  · rintro ⟨u, hu, hbefore, hnot⟩
    obtain ⟨hu, hne⟩ := List.mem_filter.mp hu
    have hne := of_decide_eq_true hne
    have hulead := h.leads u hu
    -- standings of different identities are at different places
    have horder_ne : t.order ≠ u.order := by
      intro heq
      rw [← eq_of_order_eq horder hlead.mem hulead.mem heq] at hne
      exact hne hkey
    have horder_ne' : u.order ≠ s'.order := by
      intro heq
      rw [eq_of_order_eq horder hulead.mem (by simp) (heq.trans hraise.order_eq)] at hne
      exact hne rfl
    exact ⟨t, u, hlead, hulead, hkey.trans hraise.key_eq.symm, hraise.key_eq ▸ hne, hundercuts,
      Standing.precedes_of_before ((Standing.before_total t u).resolve_right hnot) horder_ne,
      Standing.precedes_of_before hbefore horder_ne'⟩
  · rintro ⟨t₁, u, hfalls⟩
    obtain rfl : t₁ = t :=
      hfalls.leads.eq hlead horder (hfalls.key_eq.trans (hraise.key_eq.trans hkey.symm))
    have hne := hfalls.key_ne
    rw [hraise.key_eq] at hne
    have hmem : u ∈ ranked := (h.mem_iff horder).mpr hfalls.other
    exact ⟨u, List.mem_filter.mpr ⟨hmem, decide_eq_true hne⟩, hfalls.after.before,
      hfalls.before.not_before hord hlead.mem hfalls.other.mem⟩

include hraise ord horder horder' h h' in
/-- An identity of which one standing is raised moves to a later place if and only if that one falls
behind. -/
theorem IsRanking.idxOf_lt_idxOf_iff :
    (ranked.map (·.suggestion.identityKey)).idxOf s.suggestion.identityKey <
        (ranked'.map (·.suggestion.identityKey)).idxOf s.suggestion.identityKey ↔
      ∃ t u, s'.FallsBehind (xs ++ s :: ys) t u := by
  have hseen : ∀ t ∈ xs ++ s :: ys, t ∈ s' :: (xs ++ s :: ys) := fun t => List.mem_cons_of_mem s'
  have hord : Comparable (comparedScores (xs ++ s :: ys)) := ord.toComparable.of_mem hseen
  obtain ⟨t, ht, hkey⟩ := h.covers s (by simp)
  obtain ⟨t', ht', hkey'⟩ := h'.covers s' (by simp)
  rw [hraise.key_eq] at hkey'
  have hlead := h.leads t ht
  have hlead' := h'.leads t' ht'
  have hplace := h.idxOf_eq_countP hord ht
  rw [hkey] at hplace
  rw [hplace, idxOf_raised hraise ord horder horder' h h' ht' hkey']
  have hother : ∀ u ∈ ranked.filter fun u => u.suggestion.identityKey ≠ s.suggestion.identityKey,
      u ∈ xs ++ s :: ys := fun u hu => (h.leads u (List.mem_of_mem_filter hu)).mem
  rcases undercuts_or_before hraise ord horder hlead hlead' hkey hkey' with
    ⟨rfl, hundercuts⟩ | hbefore
  · have hprecedes := hundercuts.precedes hord hlead.mem
    rw [countP_lt_countP_iff fun u hu hut => Standing.before_trans ord.toComparable
      (hseen u (hother u hu)) (hseen t hlead.mem) List.mem_cons_self hut hprecedes.before]
    exact exists_between_iff hraise ord horder h ht hkey hundercuts
  · refine iff_of_false (Nat.not_lt_of_le ?_) ?_
    · exact List.countP_mono_left fun u hu hut => Standing.before_trans ord.toComparable
        (hseen u (hother u hu)) (mem_cons_of_mem_raised hlead'.mem) (hseen t hlead.mem) hut hbefore
    · rintro ⟨t₁, u, hfalls⟩
      obtain rfl : t₁ = t :=
        hfalls.leads.eq hlead horder (hfalls.key_eq.trans (hraise.key_eq.trans hkey.symm))
      have hprecedes := hfalls.undercuts.precedes ord.toComparable (hseen t₁ hlead.mem)
      rw [eq_of_undercuts hraise ord horder hlead hlead' hkey hkey' hfalls.undercuts] at hbefore
      exact hprecedes.not_before ord.toComparable (hseen t₁ hlead.mem) List.mem_cons_self hbefore

end Rankings

end Standings

end DidYouMean
