import DidYouMean.Proofs.Ranking.HighScores

/-!
# Ranking a pool in parts

A pool can be ranked in two parts, with the limit for each of them: the best final scores of both
parts together are those of the whole pool.  What the limit cuts off from one part is outnumbered by
what it keeps of it, so that it would not be among the best of the whole pool either.

## Main definitions

- `bestFinals`: the final scores of some suggestions, one for each identity, in descending order

## Main statements

- `take_eq_take_of_countP`: of two sorted lists the first scores are told by counting
- `min_countP_highScores`: the high scores of two parts, cut off, count like those of the whole
- `Query.finals_rankPool_append`: the final scores of a pool from those of its parts
-/

namespace DidYouMean

variable {α : Type} [Arith α]

/-- The final scores of some suggestions, the highest one of each identity, in descending order. -/
def bestFinals (suggestions : List (Suggestion α)) : List α :=
  descending ((highScores (suggestions.map (·.entry))).map (·.2))

section Lists

variable {β : Type} {p : β → Bool} {xs : List β}

/-- Where all that satisfies a condition comes first, a cut leaves as much of it as it can. -/
theorem countP_take_of_pairwise (h : xs.Pairwise fun x y => p y → p x) (n : Nat) :
    (xs.take n).countP p = min n (xs.countP p) := by
  induction xs generalizing n with
  | nil => simp
  | cons x xs ih =>
    obtain ⟨hx, hxs⟩ := List.pairwise_cons.mp h
    cases n with
    | zero => simp
    | succ n =>
      rw [List.take_succ_cons]
      by_cases hp : p x
      · rw [List.countP_cons_of_pos hp, List.countP_cons_of_pos hp, ih hxs n]
        omega
      · have hnone : ∀ y ∈ xs, ¬p y := fun y hy hpy => hp (hx y hy hpy)
        have hzero : xs.countP p = 0 := List.countP_eq_zero.mpr hnone
        rw [List.countP_cons_of_neg hp, List.countP_cons_of_neg hp, ih hxs n, hzero]
        omega

/-- A cut that leaves enough room keeps all that satisfies the condition. -/
theorem mem_take_of_countP_le (h : xs.Pairwise fun x y => p y → p x) {n : Nat}
    (hcount : xs.countP p ≤ n) {x : β} (hx : x ∈ xs) (hp : p x) : x ∈ xs.take n := by
  induction xs generalizing n with
  | nil => cases hx
  | cons y xs ih =>
    obtain ⟨hy, hxs⟩ := List.pairwise_cons.mp h
    have hpy : p y := by
      rcases List.mem_cons.mp hx with rfl | hmem
      · exact hp
      · exact hy x hmem hp
    rw [List.countP_cons_of_pos hpy] at hcount
    obtain ⟨m, rfl⟩ : ∃ m, n = m + 1 := ⟨n - 1, by omega⟩
    rw [List.take_succ_cons]
    rcases List.mem_cons.mp hx with rfl | hmem
    · exact List.mem_cons_self
    · exact List.mem_cons_of_mem y (ih hxs (by omega) hmem)

/-- A list with no key twice has at most as many entries of a kind as another one that has an entry of
this kind for each of their keys. -/
theorem countP_le_of_covers {κ : Type} {key : β → κ} {ys : List β}
    (hdistinct : xs.Pairwise fun x y => key x ≠ key y)
    (hcovers : ∀ x ∈ xs, p x → ∃ y ∈ ys, key y = key x ∧ p y) : xs.countP p ≤ ys.countP p := by
  have hnodup : ((xs.filter p).map key).Nodup := List.pairwise_map.mpr (hdistinct.filter p)
  have hsubset : (xs.filter p).map key ⊆ (ys.filter p).map key := by
    intro k hk
    obtain ⟨x, hx, rfl⟩ := List.mem_map.mp hk
    obtain ⟨hx, hpx⟩ := List.mem_filter.mp hx
    obtain ⟨y, hy, hsame, hpy⟩ := hcovers x hx hpx
    exact List.mem_map.mpr ⟨y, List.mem_filter.mpr ⟨hy, hpy⟩, hsame⟩
  have hlength := (List.subperm_of_subset hnodup hsubset).length_le
  rw [List.length_map, List.length_map] at hlength
  rw [List.countP_eq_length_filter, List.countP_eq_length_filter]
  exact hlength

end Lists

/-- The score is not lower than the threshold. -/
def reaches (threshold score : α) : Bool :=
  !decide (score < threshold)

theorem reaches_iff {threshold score : α} : reaches threshold score ↔ ¬score < threshold := by
  simp [reaches]

section Counting

variable {scores xs ys : List α} {x y : α}

theorem countP_reaches_self (ord : Comparable scores) (hx : x ∈ scores) (rest : List α) :
    0 < (x :: rest).countP (reaches x) := by
  have hself : reaches x x := reaches_iff.mpr (ord.irrefl hx)
  exact List.countP_pos_iff.mpr ⟨x, List.mem_cons_self, hself⟩

/-- If any of the scores reaches a threshold, the first of them does. -/
theorem not_lt_of_countP_reaches (ord : Comparable scores) (hx : x ∈ scores)
    (hys : ∀ z ∈ y :: ys, z ∈ scores) (hsorted : (y :: ys).Pairwise fun x y => ¬x < y)
    (hcount : 0 < (y :: ys).countP (reaches x)) : ¬y < x := by
  obtain ⟨z, hz, hreaches⟩ := List.countP_pos_iff.mp hcount
  have hzx : ¬z < x := reaches_iff.mp hreaches
  rcases List.mem_cons.mp hz with rfl | hmem
  · exact hzx
  · have hyz : ¬y < z := (List.pairwise_cons.mp hsorted).1 z hmem
    exact ord.negTrans y (hys y List.mem_cons_self) z (hys z hz) x hx hyz hzx

/-- The first scores of two lists in descending order are the same if, up to their number, equally
many reach each threshold. -/
theorem take_eq_take_of_countP (ord : Linear (xs ++ ys)) (hxs : xs.Pairwise fun x y => ¬x < y)
    (hys : ys.Pairwise fun x y => ¬x < y) {n : Nat}
    (hcount : ∀ v ∈ xs ++ ys, min n (xs.countP (reaches v)) = min n (ys.countP (reaches v))) :
    xs.take n = ys.take n := by
  induction n generalizing xs ys with
  | zero => simp
  | succ n ih =>
    cases xs with
    | nil =>
      cases ys with
      | nil => rfl
      | cons y ys =>
        have hy : y ∈ [] ++ y :: ys := by simp
        have hposy := countP_reaches_self ord.toComparable hy ys
        have hcounty := hcount y hy
        rw [List.countP_nil] at hcounty
        omega
    | cons x xs =>
      cases ys with
      | nil =>
        have hx : x ∈ x :: xs ++ [] := by simp
        have hposx := countP_reaches_self ord.toComparable hx xs
        have hcountx := hcount x hx
        rw [List.countP_nil] at hcountx
        omega
      | cons y ys =>
        have hx : x ∈ x :: xs ++ y :: ys := by simp
        have hy : y ∈ x :: xs ++ y :: ys := by simp
        have hposx := countP_reaches_self ord.toComparable hx xs
        have hposy := countP_reaches_self ord.toComparable hy ys
        have hcountx := hcount x hx
        have hcounty := hcount y hy
        have hyx : ¬y < x := not_lt_of_countP_reaches ord.toComparable hx
          (fun z hz => List.mem_append_right _ hz) hys (by omega)
        have hxy : ¬x < y := not_lt_of_countP_reaches ord.toComparable hy
          (fun z hz => List.mem_append_left _ hz) hxs (by omega)
        obtain rfl := ord.eq_of_not_lt x hx y hy hxy hyx
        obtain ⟨hheadx, hxs⟩ := List.pairwise_cons.mp hxs
        obtain ⟨hheady, hys⟩ := List.pairwise_cons.mp hys
        have hmem : ∀ v ∈ xs ++ ys, v ∈ x :: xs ++ x :: ys := by
          intro v hv
          rcases List.mem_append.mp hv with hv | hv
          · exact List.mem_append_left _ (List.mem_cons_of_mem x hv)
          · exact List.mem_append_right _ (List.mem_cons_of_mem x hv)
        rw [List.take_succ_cons, List.take_succ_cons, ih (ord.mono hmem) hxs hys]
        -- the head reaches every other score, and so it counts in both lists
        intro v hv
        have hhead : reaches v x := by
          rw [reaches_iff]
          exact (List.mem_append.mp hv).elim (hheadx v) (hheady v)
        have hcountv := hcount v (hmem v hv)
        rw [List.countP_cons_of_pos hhead, List.countP_cons_of_pos hhead] at hcountv
        omega

end Counting

section Tables

variable {entries table other whole left right merged : List (String × α)} {v : α} {n : Nat}

theorem comparable_of_mem (ord : Comparable (v :: entries.map (·.2)))
    (hsub : ∀ e ∈ other, e ∈ entries) : Comparable (v :: other.map (·.2)) := by
  refine ord.mono fun x hx => ?_
  rcases List.mem_cons.mp hx with rfl | hx
  · exact List.mem_cons_self
  · obtain ⟨e, he, rfl⟩ := List.mem_map.mp hx
    exact List.mem_cons_of_mem v (List.mem_map_of_mem (hsub e he))

/-- For an entry whose score reaches a threshold, the high score of its identity does too. -/
theorem IsHighScores.exists_reaches (h : IsHighScores entries table)
    (ord : Comparable (v :: entries.map (·.2))) {e : String × α} (he : e ∈ entries)
    (hv : reaches v e.2) : ∃ e' ∈ table, e'.1 = e.1 ∧ reaches v e'.2 := by
  obtain ⟨e', he', hkey⟩ := h.covers e he
  have hmem : ∀ d ∈ entries, d.2 ∈ v :: entries.map (·.2) := fun d hd =>
    List.mem_cons_of_mem v (List.mem_map_of_mem hd)
  refine ⟨e', he', hkey, reaches_iff.mpr ?_⟩
  exact ord.negTrans e'.2 (hmem e' (h.mem e' he')) e.2 (hmem e he) v List.mem_cons_self
    (h.highest e' he' e he hkey.symm) (reaches_iff.mp hv)

/-- High scores in descending order: those that reach a threshold come first. -/
theorem pairwise_reaches (ord : Comparable (v :: table.map (·.2)))
    (hsorted : (table.map (·.2)).Pairwise fun x y => ¬x < y) :
    table.Pairwise fun e e' => reaches v e'.2 → reaches v e.2 := by
  have hmem : ∀ e ∈ table, e.2 ∈ v :: table.map (·.2) := fun e he =>
    List.mem_cons_of_mem v (List.mem_map_of_mem he)
  refine (List.pairwise_map.mp hsorted).imp_of_mem fun {e e'} he he' hnot hv => ?_
  rw [reaches_iff] at hv ⊢
  exact ord.negTrans e.2 (hmem e he) e'.2 (hmem e' he') v List.mem_cons_self hnot hv

/-- A cut keeps as many entries that reach the threshold as it keeps entries, or else it keeps an
entry for each identity that reaches the threshold at all. -/
theorem IsHighScores.take_cases (h : IsHighScores entries table)
    (ord : Comparable (v :: entries.map (·.2)))
    (hsorted : (table.map (·.2)).Pairwise fun x y => ¬x < y) (n : Nat) :
    n ≤ (table.take n).countP (fun e => reaches v e.2) ∨
      ∀ e ∈ entries, reaches v e.2 → ∃ e' ∈ table.take n, e'.1 = e.1 ∧ reaches v e'.2 := by
  have hfirst := pairwise_reaches (comparable_of_mem ord h.mem) hsorted
  by_cases hcount : n ≤ table.countP fun e => reaches v e.2
  · left
    rw [countP_take_of_pairwise hfirst]
    exact Nat.le_min.mpr ⟨Nat.le_refl n, hcount⟩
  · right
    intro e he hv
    obtain ⟨e', he', hkey, hv'⟩ := h.exists_reaches ord he hv
    exact ⟨e', mem_take_of_countP_le hfirst (Nat.le_of_not_le hcount) he' hv', hkey, hv'⟩

theorem mem_append_of_mem_take_append {as bs : List (String × α)} (hleft : IsHighScores as left)
    (hright : IsHighScores bs right) : ∀ e ∈ left.take n ++ right.take n, e ∈ as ++ bs := by
  intro e he
  rcases List.mem_append.mp he with he | he
  · exact List.mem_append_left _ (hleft.mem e (List.mem_of_mem_take he))
  · exact List.mem_append_right _ (hright.mem e (List.mem_of_mem_take he))

/-- Up to a number, as many high scores reach a threshold in the whole as in what is left of two
parts if each of them is cut off at this number. -/
theorem min_countP_highScores {as bs : List (String × α)}
    (ord : Comparable (v :: (as ++ bs).map (·.2))) (hwhole : IsHighScores (as ++ bs) whole)
    (hleft : IsHighScores as left) (hright : IsHighScores bs right)
    (hleftSorted : (left.map (·.2)).Pairwise fun x y => ¬x < y)
    (hrightSorted : (right.map (·.2)).Pairwise fun x y => ¬x < y)
    (hmerged : IsHighScores (left.take n ++ right.take n) merged) :
    min n (whole.countP fun e => reaches v e.2) = min n (merged.countP fun e => reaches v e.2) := by
  have hkept := mem_append_of_mem_take_append hleft hright (n := n)
  have hordLeft : Comparable (v :: as.map (·.2)) :=
    comparable_of_mem ord fun e he => List.mem_append_left _ he
  have hordRight : Comparable (v :: bs.map (·.2)) :=
    comparable_of_mem ord fun e he => List.mem_append_right _ he
  have hordMerged := comparable_of_mem ord hkept
  have hfewer : merged.countP (fun e => reaches v e.2) ≤ whole.countP fun e => reaches v e.2 := by
    refine countP_le_of_covers hmerged.distinct fun e he hv => ?_
    exact hwhole.exists_reaches ord (hkept e (hmerged.mem e he)) hv
  -- either cut alone may keep the number of entries wanted
  have hcut : ∀ {part : List (String × α)}, part.Pairwise (fun e e' => e.1 ≠ e'.1) →
      (∀ e ∈ part, e ∈ left.take n ++ right.take n) →
      part.countP (fun e => reaches v e.2) ≤ merged.countP fun e => reaches v e.2 := by
    intro part hdistinct hpart
    exact countP_le_of_covers hdistinct fun e he hv =>
      hmerged.exists_reaches hordMerged (hpart e he) hv
  have hcutLeft := hcut hleft.distinct.take fun e he => List.mem_append_left _ he
  have hcutRight := hcut hright.distinct.take fun e he => List.mem_append_right _ he
  rcases hleft.take_cases hordLeft hleftSorted n with hfull | hcoversLeft
  · omega
  rcases hright.take_cases hordRight hrightSorted n with hfull | hcoversRight
  · omega
  -- nothing that reaches the threshold was cut off
  have hmore : whole.countP (fun e => reaches v e.2) ≤ merged.countP fun e => reaches v e.2 := by
    refine countP_le_of_covers hwhole.distinct fun e he hv => ?_
    have hcovers : ∃ e' ∈ left.take n ++ right.take n, e'.1 = e.1 ∧ reaches v e'.2 := by
      rcases List.mem_append.mp (hwhole.mem e he) with he | he
      · obtain ⟨e', he', hkey⟩ := hcoversLeft e he hv
        exact ⟨e', List.mem_append_left _ he', hkey⟩
      · obtain ⟨e', he', hkey⟩ := hcoversRight e he hv
        exact ⟨e', List.mem_append_right _ he', hkey⟩
    obtain ⟨e', he', hkey', hv'⟩ := hcovers
    obtain ⟨e'', he'', hkey'', hv''⟩ := hmerged.exists_reaches hordMerged he' hv'
    exact ⟨e'', he'', hkey''.trans hkey', hv''⟩
  omega

/-- The best scores of the whole are those of what is left of two parts after each was cut off. -/
theorem take_descending_highScores {as bs : List (String × α)}
    (ord : Linear ((as ++ bs).map (·.2))) (hwhole : IsHighScores (as ++ bs) whole)
    (hleft : IsHighScores as left) (hright : IsHighScores bs right)
    (hwholeSorted : (whole.map (·.2)).Pairwise fun x y => ¬x < y)
    (hleftSorted : (left.map (·.2)).Pairwise fun x y => ¬x < y)
    (hrightSorted : (right.map (·.2)).Pairwise fun x y => ¬x < y) (n : Nat) :
    (whole.map (·.2)).take n =
      (descending ((highScores (left.take n ++ right.take n)).map (·.2))).take n := by
  have hkept := mem_append_of_mem_take_append hleft hright (n := n)
  have hordKept : Linear ((left.take n ++ right.take n).map (·.2)) := by
    refine ord.mono fun x hx => ?_
    obtain ⟨e, he, rfl⟩ := List.mem_map.mp hx
    exact List.mem_map_of_mem (hkept e he)
  have hmerged := isHighScores_highScores hordKept.toComparable
  have hscores : ∀ x ∈ (highScores (left.take n ++ right.take n)).map (·.2),
      x ∈ (as ++ bs).map (·.2) := by
    intro x hx
    obtain ⟨e, he, rfl⟩ := List.mem_map.mp hx
    exact List.mem_map_of_mem (hkept e (hmerged.mem e he))
  have hperm : (descending ((highScores (left.take n ++ right.take n)).map (·.2))).Perm
      ((highScores (left.take n ++ right.take n)).map (·.2)) := List.mergeSort_perm _ _
  have hmem : ∀ x ∈ whole.map (·.2) ++
      descending ((highScores (left.take n ++ right.take n)).map (·.2)),
      x ∈ (as ++ bs).map (·.2) := by
    intro x hx
    rcases List.mem_append.mp hx with hx | hx
    · obtain ⟨e, he, rfl⟩ := List.mem_map.mp hx
      exact List.mem_map_of_mem (hwhole.mem e he)
    · exact hscores x (hperm.mem_iff.mp hx)
  refine take_eq_take_of_countP (ord.mono hmem) hwholeSorted
    (pairwise_descending (ord.toComparable.mono hscores)) fun v hv => ?_
  have hordv : Comparable (v :: (as ++ bs).map (·.2)) := by
    refine ord.toComparable.mono fun x hx => ?_
    rcases List.mem_cons.mp hx with rfl | hx
    · exact hmem x hv
    · exact hx
  have hcount := min_countP_highScores hordv hwhole hleft hright hleftSorted hrightSorted hmerged
  rw [hperm.countP_eq, List.countP_map, List.countP_map]
  exact hcount

end Tables

section Doubles

/-- A pool has the final scores of its two parts: where an identity is suggested from both of them, the
higher one. -/
theorem Query.finals_rankPool_append (q : Query) (workers : Option Int) (k : Nat)
    (front back : List Candidate) :
    let first : Query := { q with limit := some k }
    ∃ r r₁ r₂ : Ranking Float,
      (first.rankPool workers ((front ++ back).map fun c => .ok (.candidate c))).result = .ok r ∧
      (first.rankPool workers (front.map fun c => .ok (.candidate c))).result = .ok r₁ ∧
      (first.rankPool workers (back.map fun c => .ok (.candidate c))).result = .ok r₂ ∧
      r.suggestions.map (·.final) = (bestFinals (r₁.suggestions ++ r₂.suggestions)).take k := by
  intro first
  by_cases hname : first.name = ""
  · have hnone : ∀ pool : List Pull,
        (first.rankPool workers pool : PoolRanking Float).result = .ok ⟨[], 0, 0, 0⟩ := by
      intro pool
      rw [first.rankPool_of_empty hname]
    exact ⟨_, _, _, hnone _, hnone _, hnone _, by simp [bestFinals, highScores, descending]⟩
  have htables := fun pool : List Candidate =>
    first.exists_highScores pool hname (first.linear_admitted pool).toComparable
  obtain ⟨whole, hwhole, hwholeSorted, hsuggestions⟩ := htables (front ++ back)
  obtain ⟨left, hleft, hleftSorted, hsuggestions₁⟩ := htables front
  obtain ⟨right, hright, hrightSorted, hsuggestions₂⟩ := htables back
  have hlimit : ∀ table : List (String × Float), first.limit.take table = table.take k :=
    fun table => Limit.take_natCast k table
  rw [hlimit] at hsuggestions hsuggestions₁ hsuggestions₂
  have hentries : first.entries Float (front ++ back) =
      first.entries Float front ++ first.entries Float back := by
    rw [first.entries_eq, first.entries_eq, first.entries_eq, List.filter_append, List.map_append]
  rw [hentries] at hwhole
  have ord := first.linear_entries (front ++ back)
  rw [hentries] at ord
  refine ⟨first.rank (front ++ back), first.rank front, first.rank back,
    first.rankPool_candidates _ hname workers, first.rankPool_candidates _ hname workers,
    first.rankPool_candidates _ hname workers, ?_⟩
  calc (first.rank (front ++ back)).suggestions.map (·.final)
      = (whole.map (·.2)).take k := by rw [map_final_eq, hsuggestions, List.map_take]
    _ = (descending ((highScores (left.take k ++ right.take k)).map (·.2))).take k :=
        take_descending_highScores ord hwhole hleft hright hwholeSorted hleftSorted hrightSorted k
    _ = (bestFinals ((first.rank front).suggestions ++ (first.rank back).suggestions)).take k := by
        rw [bestFinals, List.map_append, hsuggestions₁, hsuggestions₂]

end Doubles

end DidYouMean
