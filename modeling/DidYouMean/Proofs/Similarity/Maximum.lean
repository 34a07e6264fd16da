import DidYouMean.Proofs.Similarity.Marks
import Mathlib.Data.Finset.Card
import Mathlib.Order.Bounds.Basic

/-!
# Maximum matchings

The scan never gives a match back, and still there is no way to match more characters.  A row that
takes its first free column may block a later row, but the windows slide along the right text: the
later row can then take the column that the earlier row would have had instead.

## Main definitions

- `IsMatching`: pairs of positions that may be matched all together

## Main statements

- `IsMatching.exchange`: taking a row and a column out of a matching costs one pair
- `IsMatching.card_le_length_pairsFrom`: no matching is larger than that of the scan
- `isGreatest_findMatches_count`: the scan counts as many matches as there can be
-/

namespace DidYouMean.Similarity

/-- Pairs of positions each of which may be matched, and no two of which share a position. -/
structure IsMatching (meets : Nat → Nat → Prop) (m : Finset (Nat × Nat)) : Prop where
  meets : ∀ e ∈ m, meets e.1 e.2
  eq_of_fst : ∀ e ∈ m, ∀ e' ∈ m, e.1 = e'.1 → e = e'
  eq_of_snd : ∀ e ∈ m, ∀ e' ∈ m, e.2 = e'.2 → e = e'

namespace IsMatching

variable {meets meets' : Nat → Nat → Prop} {m : Finset (Nat × Nat)} {i j a b : Nat}

theorem mono (h : IsMatching meets m) {part : Finset (Nat × Nat)} (hsub : part ⊆ m)
    (hmeets : ∀ e ∈ part, meets e.1 e.2 → meets' e.1 e.2) : IsMatching meets' part where
  meets e he := hmeets e he (h.meets e (hsub he))
  eq_of_fst e he e' he' := h.eq_of_fst e (hsub he) e' (hsub he')
  eq_of_snd e he e' he' := h.eq_of_snd e (hsub he) e' (hsub he')

/-- A pair of free positions can be added. -/
theorem insert (h : IsMatching meets m) (hmeets : meets a b) (hfst : ∀ e ∈ m, e.1 ≠ a)
    (hsnd : ∀ e ∈ m, e.2 ≠ b) : IsMatching meets (insert (a, b) m) where
  meets := by
    rw [Finset.forall_mem_insert]
    exact ⟨hmeets, h.meets⟩
  eq_of_fst := by
    simp only [Finset.forall_mem_insert, true_implies, true_and]
    refine ⟨fun e he heq => absurd heq.symm (hfst e he), fun e he => ⟨fun heq => ?_, ?_⟩⟩
    · exact absurd heq (hfst e he)
    · exact h.eq_of_fst e he
  eq_of_snd := by
    simp only [Finset.forall_mem_insert, true_implies, true_and]
    refine ⟨fun e he heq => absurd heq.symm (hsnd e he), fun e he => ⟨fun heq => ?_, ?_⟩⟩
    · exact absurd heq (hsnd e he)
    · exact h.eq_of_snd e he

/-- The pairs that have nothing to do with a row and a column. -/
def others (m : Finset (Nat × Nat)) (i j : Nat) : Finset (Nat × Nat) :=
  m.filter fun e => e.1 ≠ i ∧ e.2 ≠ j

theorem mem_others {e : Nat × Nat} : e ∈ others m i j ↔ e ∈ m ∧ e.1 ≠ i ∧ e.2 ≠ j :=
  Finset.mem_filter

theorem others_subset (m : Finset (Nat × Nat)) (i j : Nat) : others m i j ⊆ m :=
  Finset.filter_subset _ m

/-- If no two pairs take the row and the column apart, one pair takes all there is of them. -/
theorem card_le_of_not_apart (h : IsMatching meets m)
    (hnot : ¬∃ a b, (i, b) ∈ m ∧ (a, j) ∈ m ∧ a ≠ i ∧ b ≠ j) :
    m.card ≤ (others m i j).card + 1 := by
  have hone : (m \ others m i j).card ≤ 1 := by
    rw [Finset.card_le_one]
    intro e he e' he'
    obtain ⟨he, htaken⟩ := Finset.mem_sdiff.mp he
    obtain ⟨he', htaken'⟩ := Finset.mem_sdiff.mp he'
    by_contra hne
    have hfst : e.1 ≠ e'.1 := fun heq => hne (h.eq_of_fst e he e' he' heq)
    have hsnd : e.2 ≠ e'.2 := fun heq => hne (h.eq_of_snd e he e' he' heq)
    simp only [mem_others, he, he', true_and, not_and_or, not_not] at htaken htaken'
    -- different pairs share neither row nor column, and so one has the row and one the column
    rcases htaken with hrow | hcolumn
    · rcases htaken' with hrow' | hcolumn'
      · exact hfst (hrow.trans hrow'.symm)
      · refine hnot ⟨e'.1, e.2, hrow ▸ he, hcolumn' ▸ he', ?_, ?_⟩
        · exact fun heq => hfst (hrow.trans heq.symm)
        · exact fun heq => hsnd (heq.trans hcolumn'.symm)
    · rcases htaken' with hrow' | hcolumn'
      · refine hnot ⟨e.1, e'.2, hrow' ▸ he', hcolumn ▸ he, ?_, ?_⟩
        · exact fun heq => hfst (heq.trans hrow'.symm)
        · exact fun heq => hsnd (hcolumn.trans heq.symm)
      · exact hsnd (hcolumn.trans hcolumn'.symm)
  have hsplit := Finset.card_sdiff_add_card_eq_card (others_subset m i j)
  omega

/-- A row and a column can be taken out of a matching at the cost of one pair, if those that were
matched with them can be matched with each other. -/
theorem exchange (h : IsMatching meets m)
    (hrest : ∀ a b, meets a b → a ≠ i → b ≠ j → meets' a b)
    (hcross : ∀ a b, meets i b → meets a j → a ≠ i → b ≠ j → meets' a b) :
    ∃ m', IsMatching meets' m' ∧ m.card ≤ m'.card + 1 := by
  have hothers : IsMatching meets' (others m i j) := by
    refine h.mono (others_subset m i j) fun e he hmeets => ?_
    obtain ⟨-, hfst, hsnd⟩ := mem_others.mp he
    exact hrest e.1 e.2 hmeets hfst hsnd
  by_cases hapart : ∃ a b, (i, b) ∈ m ∧ (a, j) ∈ m ∧ a ≠ i ∧ b ≠ j
  · obtain ⟨a, b, hrow, hcolumn, ha, hb⟩ := hapart
    have hfst : ∀ e ∈ others m i j, e.1 ≠ a := by
      intro e he heq
      obtain ⟨he, -, hsnd⟩ := mem_others.mp he
      exact hsnd (congrArg Prod.snd (h.eq_of_fst e he (a, j) hcolumn heq))
    have hsnd : ∀ e ∈ others m i j, e.2 ≠ b := by
      intro e he heq
      obtain ⟨he, hfst, -⟩ := mem_others.mp he
      exact hfst (congrArg Prod.fst (h.eq_of_snd e he (i, b) hrow heq))
    refine ⟨_, hothers.insert (hcross a b (h.meets _ hrow) (h.meets _ hcolumn) ha hb) hfst hsnd, ?_⟩
    have hnew : (a, b) ∉ others m i j := fun hmem => hfst _ hmem rfl
    have hsub : m ⊆ Insert.insert (i, b) (Insert.insert (a, j) (others m i j)) := by
      intro e he
      simp only [Finset.mem_insert, mem_others]
      by_cases hi : e.1 = i
      · exact .inl (h.eq_of_fst e he (i, b) hrow hi)
      · by_cases hj : e.2 = j
        · exact .inr (.inl (h.eq_of_snd e he (a, j) hcolumn hj))
        · exact .inr (.inr ⟨he, hi, hj⟩)
    rw [Finset.card_insert_of_notMem hnew]
    calc m.card
        ≤ (Insert.insert (i, b) (Insert.insert (a, j) (others m i j))).card :=
          Finset.card_le_card hsub
      _ ≤ (Insert.insert (a, j) (others m i j)).card + 1 := Finset.card_insert_le _ _
      _ ≤ (others m i j).card + 1 + 1 := Nat.add_le_add_right (Finset.card_insert_le _ _) 1
  · exact ⟨_, hothers, h.card_le_of_not_apart hapart⟩

end IsMatching

section Scan

variable {distance : Int} {right text : List Char} {c : Char} {i j a b : Nat} {marks : List Bool}

/-- A row that takes its first column `j` leaves any other of its columns to a later row that could have
taken `j`: the window of the later row is not behind, and it does not reach back further than `j`. -/
theorem MeetsFrom.cross (hrow : MeetsFrom distance right i (c :: text) marks i b)
    (hcolumn : MeetsFrom distance right i (c :: text) marks a j)
    (hj : Free c (i - distance) (i + distance + 1) 0 right marks j)
    (hfirst : ∀ b < j, ¬Free c (i - distance) (i + distance + 1) 0 right marks b) (ha : i < a)
    (hb : b ≠ j) : MeetsFrom distance right (i + 1) text (marks.set j true) a b := by
  have hself := meetsFrom_cons_self.mp hrow
  have hlater := (meetsFrom_cons_of_lt ha).mp hcolumn
  have hjb : j < b := by
    refine Nat.lt_of_le_of_ne (Nat.le_of_not_lt fun hlt => ?_) (Ne.symm hb)
    exact hfirst b hlt hself
  have hchar : text[a - (i + 1)]? = some c := by
    obtain ⟨d, htext, hright⟩ := hlater.char
    cases hright.symm.trans hj.char
    exact htext
  have hlow := hcolumn.low
  have hhigh := hrow.high
  exact meetsFrom_set.mpr ⟨⟨ha, ⟨c, hchar, hself.char⟩, by omega, by omega, hrow.unmarked⟩, hb⟩

end Scan

namespace IsMatching

/-- No matching is larger than that of the scan. -/
theorem card_le_length_pairsFrom {distance : Int} {right : List Char} (i : Nat)
    (text : List Char) (marks : List Bool) {m : Finset (Nat × Nat)}
    (h : IsMatching (MeetsFrom distance right i text marks) m) :
    m.card ≤ (pairsFrom distance right i text marks).length := by
  induction text generalizing i marks m with
  | nil =>
    have hempty : m = ∅ := by
      refine Finset.eq_empty_of_forall_notMem fun e he => ?_
      obtain ⟨c, hc, -⟩ := (h.meets e he).char
      simp at hc
    simp [hempty]
  | cons c text ih =>
    obtain ⟨hsome, hnone⟩ := firstFree_spec c (i - distance) (i + distance + 1) 0 right marks
    have hlt : ∀ a b, MeetsFrom distance right i (c :: text) marks a b → a ≠ i → i < a :=
      fun a b hmeets ha => Nat.lt_of_le_of_ne hmeets.start (Ne.symm ha)
    rw [pairsFrom]
    cases hfree : firstFree c (i - distance) (i + distance + 1) 0 right marks with
    | none =>
      -- nothing meets row `i`
      refine ih (i + 1) marks (h.mono (Finset.Subset.refl m) fun e _ hmeets => ?_)
      refine (meetsFrom_cons_of_lt (hlt e.1 e.2 hmeets fun heq => ?_)).mp hmeets
      rw [heq] at hmeets
      exact hnone hfree e.2 (meetsFrom_cons_self.mp hmeets)
    | some j =>
      -- the scan gives row `i` its first column `j`, and the matching gives both of them up
      obtain ⟨m', hm', hcard⟩ := h.exchange (i := i) (j := j)
        (fun a b hmeets ha hb => meetsFrom_set.mpr
          ⟨(meetsFrom_cons_of_lt (hlt a b hmeets ha)).mp hmeets, hb⟩)
        (fun a b hrow hcolumn ha hb => hrow.cross hcolumn (hsome j hfree).1
          (hsome j hfree).2 (hlt a j hcolumn ha) hb)
      exact Nat.le_trans hcard (Nat.add_le_add_right (ih (i + 1) _ hm') 1)

end IsMatching

/-- What is matched greedily gives no position two partners. -/
theorem IsGreedy.isMatching {meets : Nat → Nat → Prop} {pairs : List (Nat × Nat)}
    (h : IsGreedy meets fun a b => (a, b) ∈ pairs) : IsMatching meets pairs.toFinset where
  meets e he := ((h e.1 e.2).mp (List.mem_toFinset.mp he)).1
  eq_of_fst e he e' he' heq := by
    obtain ⟨a, b⟩ := e
    obtain ⟨a', b'⟩ := e'
    obtain rfl : a = a' := heq
    rw [List.mem_toFinset] at he he'
    rcases Nat.lt_trichotomy b b' with hlt | rfl | hlt
    · exact absurd he (((h a b').mp he').2.1 b hlt)
    · rfl
    · exact absurd he' (((h a b).mp he).2.1 b' hlt)
  eq_of_snd e he e' he' heq := by
    obtain ⟨a, b⟩ := e
    obtain ⟨a', b'⟩ := e'
    obtain rfl : b = b' := heq
    rw [List.mem_toFinset] at he he'
    rcases Nat.lt_trichotomy a a' with hlt | rfl | hlt
    · exact absurd he (((h a' b).mp he').2.2 a hlt)
    · rfl
    · exact absurd he' (((h a b).mp he).2.2 a' hlt)

/-- The scan counts as many matches as a matching of the two texts can have. -/
theorem isGreatest_findMatches_count (left right : List Char) (distance : Int) :
    IsGreatest {n | ∃ m, IsMatching (Meets left right distance) m ∧ m.card = n}
      (findMatches left right distance).count := by
  have hgreedy := isGreedy_pairs left right distance
  rw [findMatches_count]
  constructor
  · exact ⟨_, hgreedy.isMatching, List.toFinset_card_of_nodup (nodup_pairs left right distance)⟩
  · rintro n ⟨m, hm, rfl⟩
    exact IsMatching.card_le_length_pairsFrom 0 left _
      (hm.mono (Finset.Subset.refl m) fun e _ hmeets => meets_iff_meetsFrom.mp hmeets)

end DidYouMean.Similarity
