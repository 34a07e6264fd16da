import DidYouMean.Proofs.Ranking.Parts

/-!
# Adding candidates to a pool

Candidates that are added to the end of a pool may push others off the list of suggestions, and they may
take over identities that they share.  What is suggested for an identity that none of them has stays as
it is: it cannot be suggested only now, and its suggestions do not change places among each other.

## Main statements

- `sublist_of_pairwise`: entries of a row that are in order stand in it in that order
- `IsRanking.mem_take_iff`: what is kept by a cut, told by counting what comes before it
- `IsRanking.exists_before_of_append`: for what came before a standing, something still does
- `IsRanking.sublist_take_of_append`: rankings of a row with and without additions
- `Query.sublist_suggestions_append`: the same for the suggestions of a query
-/

namespace DidYouMean

section Lists

variable {β : Type} {r : β → β → Prop} {xs ys : List β}

/-- Entries of a row that are in order stand in it in that order. -/
theorem sublist_of_pairwise (hxs : xs.Pairwise r) (hys : ys.Pairwise r)
    (hasymm : ∀ x ∈ ys, ∀ y ∈ ys, r x y → ¬r y x) (hsub : ∀ x ∈ xs, x ∈ ys) :
    xs.Sublist ys := by
  induction ys generalizing xs with
  | nil =>
    rw [List.eq_nil_iff_forall_not_mem.mpr fun x hx => List.not_mem_nil (hsub x hx)]
  | cons y ys ih =>
    obtain ⟨hy, hrest⟩ := List.pairwise_cons.mp hys
    have hasymm' : ∀ x ∈ ys, ∀ z ∈ ys, r x z → ¬r z x := fun x hx z hz =>
      hasymm x (List.mem_cons_of_mem y hx) z (List.mem_cons_of_mem y hz)
    have hirrefl : ¬r y y := fun h => hasymm y List.mem_cons_self y List.mem_cons_self h h
    cases xs with
    | nil => exact List.nil_sublist _
    | cons x xs =>
      obtain ⟨hx, hxs⟩ := List.pairwise_cons.mp hxs
      -- nothing but the first entry of the row can stand before anything that is the first entry
      have hlater : ∀ z ∈ xs, z ∈ ys := by
        intro z hz
        rcases List.mem_cons.mp (hsub z (List.mem_cons_of_mem x hz)) with rfl | hmem
        · rcases List.mem_cons.mp (hsub x List.mem_cons_self) with rfl | hxmem
          · exact absurd (hx x hz) hirrefl
          · exact absurd (hx z hz) (hasymm z List.mem_cons_self x (List.mem_cons_of_mem z hxmem)
              (hy x hxmem))
        · exact hmem
      rcases List.mem_cons.mp (hsub x List.mem_cons_self) with rfl | hmem
      · exact (ih hxs hrest hasymm' hlater).cons_cons x
      · refine (ih (List.pairwise_cons.mpr ⟨hx, hxs⟩) hrest hasymm' ?_).cons y
        exact List.forall_mem_cons.mpr ⟨hmem, hlater⟩

end Lists

variable {α : Type} [Arith α]

namespace Standing

variable {seen extra : List (Standing α)} {s t : Standing α}

theorem Precedes.before (h : s.Precedes t) : s.before t := by
  rw [before_iff]
  exact h.imp_right fun ⟨hfinal, hrest⟩ => ⟨hfinal, hrest.imp_right fun ⟨hsim, hlt⟩ =>
    ⟨hsim, Nat.le_of_lt hlt⟩⟩

theorem before_self (ord : Comparable (comparedScores seen)) (hs : s ∈ seen) : s.before s := by
  rw [before_iff]
  exact .inr ⟨ord.irrefl (final_mem_comparedScores hs),
    .inr ⟨ord.irrefl (similarity_mem_comparedScores hs), Nat.le_refl _⟩⟩

/-- What comes after a standing does not come before it. -/
theorem Precedes.not_before (ord : Comparable (comparedScores seen)) (hs : s ∈ seen)
    (ht : t ∈ seen) (h : s.Precedes t) : ¬t.before s := by
  intro hbefore
  rw [before_iff] at hbefore
  obtain ⟨hst, hts⟩ := ord.lex_antisymm (final_mem_comparedScores hs)
    (final_mem_comparedScores ht) h hbefore
  obtain ⟨hlt, hle⟩ := ord.lex_antisymm (similarity_mem_comparedScores hs)
    (similarity_mem_comparedScores ht) hst hts
  exact Nat.not_le_of_lt hlt hle

/-- What leads a longer row leads a shorter one that it is in. -/
theorem Leads.of_append (h : s.Leads (seen ++ extra)) (hs : s ∈ seen) : s.Leads seen where
  mem := hs
  highest t ht := h.highest t (List.mem_append_left _ ht)
  earliest t ht := h.earliest t (List.mem_append_left _ ht)

/-- A standing with a higher final score comes before all that a lower one comes before. -/
theorem before_of_final_lt (ord : Comparable (comparedScores seen)) {u : Standing α} (hs : s ∈ seen)
    (ht : t ∈ seen) (hu : u ∈ seen) (hlt : t.suggestion.final < u.suggestion.final)
    (h : t.before s) : u.before s := by
  have hnot : ¬t.suggestion.final < s.suggestion.final := by
    rcases before_iff.mp h with hbetter | ⟨hnot, -⟩
    · exact ord.asymm _ (final_mem_comparedScores hs) _ (final_mem_comparedScores ht) hbetter
    · exact hnot
  exact before_iff.mpr (.inl (ord.lt_of_not_lt_of_lt (final_mem_comparedScores hs)
    (final_mem_comparedScores ht) (final_mem_comparedScores hu) hnot hlt))

end Standing

namespace IsRanking

variable {seen extra ranked ranked' : List (Standing α)} {s t : Standing α}

/-- A standing of a ranking is kept by a cut if and only if no more standings than are kept come before
it, itself included. -/
theorem mem_take_iff (h : IsRanking seen ranked) (ord : Comparable (comparedScores seen))
    (hs : s ∈ ranked) (n : Nat) : s ∈ ranked.take n ↔ ranked.countP (·.before s) ≤ n := by
  have hseen : ∀ t ∈ ranked, t ∈ seen := fun t ht => (h.leads t ht).mem
  have hself : s.before s := Standing.before_self ord (hseen s hs)
  have hsplit : ranked.countP (·.before s) =
      (ranked.take n).countP (·.before s) + (ranked.drop n).countP (·.before s) := by
    rw [← List.countP_append, List.take_append_drop]
  constructor
  · intro htake
    have hlater : ∀ t ∈ ranked.drop n, s.Precedes t := by
      have hsorted := h.sorted
      rw [← List.take_append_drop n ranked] at hsorted
      exact (List.pairwise_append.mp hsorted).2.2 s htake
    have hnone : (ranked.drop n).countP (·.before s) = 0 := by
      refine List.countP_eq_zero.mpr fun t ht => ?_
      exact (hlater t ht).not_before ord (hseen s hs) (hseen t (List.mem_of_mem_drop ht))
    have hlength : (ranked.take n).countP (·.before s) ≤ (ranked.take n).length :=
      List.countP_le_length
    have hcut : (ranked.take n).length ≤ n := List.length_take_le n ranked
    omega
  · intro hcount
    refine mem_take_of_countP_le (p := (·.before s)) ?_ hcount hs hself
    refine h.sorted.imp_of_mem fun {t u} ht hu htu hbefore => ?_
    exact Standing.before_trans ord (hseen t ht) (hseen u hu) (hseen s hs) htu.before hbefore

/-- For whatever came before a standing, the same or something better of its identity still does. -/
theorem exists_before_of_append (ord : Comparable (comparedScores (seen ++ extra)))
    (horder : (seen ++ extra).Pairwise fun s t => s.order < t.order) (h : IsRanking seen ranked)
    (h' : IsRanking (seen ++ extra) ranked') (hs : s ∈ seen ++ extra) (ht : t ∈ ranked)
    (hbefore : t.before s) : ∃ u ∈ ranked',
      u.suggestion.identityKey = t.suggestion.identityKey ∧ u.before s := by
  have hlead := h.leads t ht
  have htmem : t ∈ seen ++ extra := List.mem_append_left _ hlead.mem
  obtain ⟨u, hu, hkey⟩ := h'.covers t htmem
  have hlead' := h'.leads u hu
  refine ⟨u, hu, hkey, ?_⟩
  by_cases hlt : t.suggestion.final < u.suggestion.final
  · exact Standing.before_of_final_lt ord hs htmem hlead'.mem hlt hbefore
  · -- what is no better is no addition, since additions are later
    have hle : u.order ≤ t.order := hlead'.earliest t htmem hkey.symm hlt
    have hmem : u ∈ seen := by
      rcases List.mem_append.mp hlead'.mem with hmem | hmem
      · exact hmem
      · have hlater := (List.pairwise_append.mp horder).2.2 t hlead.mem u hmem
        omega
    rwa [(hlead'.of_append hmem).eq hlead (List.pairwise_append.mp horder).1 hkey]

/-- What a cut keeps of the identities that are not added to is kept without the additions, too, and
in the same order. -/
theorem sublist_take_of_append (ord : Comparable (comparedScores (seen ++ extra)))
    (horder : (seen ++ extra).Pairwise fun s t => s.order < t.order) {own : String → Bool}
    (hown : ∀ t ∈ extra, ¬own t.suggestion.identityKey) (h : IsRanking seen ranked)
    (h' : IsRanking (seen ++ extra) ranked') (n : Nat) :
    ((ranked'.take n).filter fun s => own s.suggestion.identityKey).Sublist (ranked.take n) := by
  have hfirst : ∀ t ∈ seen, t ∈ seen ++ extra := fun t ht => List.mem_append_left _ ht
  have ordSeen : Comparable (comparedScores seen) := ord.of_mem hfirst
  have horderSeen := (List.pairwise_append.mp horder).1
  refine sublist_of_pairwise (h'.sorted.take.filter _) h.sorted.take ?_ ?_
  · intro s hs t ht hst
    exact hst.asymm ordSeen (h.leads s (List.mem_of_mem_take hs)).mem
      (h.leads t (List.mem_of_mem_take ht)).mem
  · intro s hs
    obtain ⟨hs, hownKey⟩ := List.mem_filter.mp hs
    have hmem' := List.mem_of_mem_take hs
    have hlead := h'.leads s hmem'
    have hseen : s ∈ seen := by
      rcases List.mem_append.mp hlead.mem with hseen | hextra
      · exact hseen
      · exact absurd hownKey (hown s hextra)
    have hmem : s ∈ ranked := (h.mem_iff horderSeen).mpr (hlead.of_append hseen)
    rw [h.mem_take_iff ordSeen hmem]
    refine Nat.le_trans (countP_le_of_covers h.distinct fun t ht hbefore => ?_)
      ((h'.mem_take_iff ord hmem' n).mp hs)
    exact exists_before_of_append ord horder h h' (hfirst s hseen) ht hbefore

end IsRanking

section Pools

variable (q : Query)

/-- Candidates at the end of a pool are admitted after all others. -/
theorem Query.exists_admitted_append (front back : List Candidate) :
    ∃ extra : List (Standing α), q.admitted (front ++ back) = q.admitted front ++ extra ∧
      ∀ t ∈ extra, ∃ c ∈ back, t.suggestion.identityKey = q.identity c.symbol := by
  rw [admitted, admitted, List.zipIdx_append, List.filter_append, List.map_append]
  refine ⟨_, rfl, fun t ht => ?_⟩
  obtain ⟨e, he, rfl⟩ := List.mem_map.mp ht
  exact ⟨e.1, List.fst_mem_of_mem_zipIdx (List.mem_of_mem_filter he), rfl⟩

/-- No identity is suggested twice. -/
theorem Query.pairwise_identityKey_suggestions (pool : List Candidate) {k : Nat}
    (hlimit : q.limit = some (k : Int)) : (q.rank pool : Ranking Float).suggestions.Pairwise
      fun s t => s.identityKey ≠ t.identityKey := by
  by_cases hname : q.name = ""
  · rw [rank, if_pos hname]
    exact .nil
  · obtain ⟨ranked, hranked, hsuggestions⟩ :=
      q.exists_isRanking pool hname (q.linear_admitted pool).toComparable
    have hdistinct : (ranked.map (·.suggestion)).Pairwise
        fun s t => s.identityKey ≠ t.identityKey := List.pairwise_map.mpr hranked.distinct
    rw [hsuggestions, hlimit, Limit.take_natCast]
    exact hdistinct.take

/-- What is suggested for the identities that none of the additions has is suggested without them, too,
and in the same order. -/
theorem Query.sublist_suggestions_append {k : Nat} (hlimit : q.limit = some (k : Int))
    {own : String → Bool} (front : List Candidate) {back : List Candidate}
    (hown : ∀ c ∈ back, ¬own (q.identity c.symbol)) :
    ((q.rank (front ++ back) : Ranking Float).suggestions.filter fun s => own s.identityKey).Sublist
      (q.rank front).suggestions := by
  by_cases hname : q.name = ""
  · rw [rank, if_pos hname]
    exact List.nil_sublist _
  have ord := (q.linear_admitted (front ++ back)).toComparable
  have horder := q.pairwise_order_admitted (α := Float) (front ++ back)
  obtain ⟨ranked, hranked, hsuggestions⟩ :=
    q.exists_isRanking front hname (q.linear_admitted front).toComparable
  obtain ⟨ranked', hranked', hsuggestions'⟩ := q.exists_isRanking (front ++ back) hname ord
  obtain ⟨extra, happend, hextra⟩ := q.exists_admitted_append (α := Float) front back
  rw [happend] at ord horder hranked'
  have hothers : ∀ t ∈ extra, ¬own t.suggestion.identityKey := by
    intro t ht
    obtain ⟨c, hc, hkey⟩ := hextra t ht
    rw [hkey]
    exact hown c hc
  have hsublist := hranked.sublist_take_of_append ord horder hothers hranked' k
  rw [hsuggestions, hsuggestions', hlimit, Limit.take_natCast, Limit.take_natCast,
    ← List.map_take, ← List.map_take, List.filter_map]
  exact hsublist.map _

end Pools

end DidYouMean
