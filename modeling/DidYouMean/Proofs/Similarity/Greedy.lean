import DidYouMean.Similarity.Matching
import Mathlib.Data.List.Basic
import Mathlib.Tactic.ByContra

/-!
# Greedy matching

The scan takes the characters of the left text in turn and gives each of them the first free
character of the right text.  What it matches can be said without an order of steps: two positions
are matched if and only if they may be, and neither of them is matched with an earlier position.
Both texts play the same part in this.

## Main definitions

- `IsGreedy`: a relation of positions is matched greedily
- `pairsFrom`: the pairs of positions that the scan matches
- `Meets`: two positions may be matched

## Main statements

- `IsGreedy.unique`: what is matched greedily is determined
- `isGreedy_pairs`: the pairs of the scan are matched greedily
- `mem_pairs_swap`: the scan matches the same pairs from either text
-/

namespace DidYouMean.Similarity

/-- A pair is matched just if it may be and neither side is matched with an earlier partner. -/
def IsGreedy (meets matched : Nat → Nat → Prop) : Prop :=
  ∀ i j, matched i j ↔ meets i j ∧ (∀ j' < j, ¬matched i j') ∧ ∀ i' < i, ¬matched i' j

namespace IsGreedy

variable {meets matched other : Nat → Nat → Prop}

theorem swap (h : IsGreedy meets matched) :
    IsGreedy (fun i j => meets j i) fun i j => matched j i := by
  intro i j
  exact (h j i).trans (and_congr_right' and_comm)

theorem congr (h : IsGreedy meets matched) {meets' : Nat → Nat → Prop}
    (hmeets : ∀ i j, meets i j ↔ meets' i j) : IsGreedy meets' matched := by
  intro i j
  rw [h i j, hmeets i j]

/-- What is matched greedily is determined by what may be matched. -/
theorem unique (h : IsGreedy meets matched) (h' : IsGreedy meets other) (i j : Nat) :
    matched i j ↔ other i j := by
  -- whether a pair is matched depends on pairs with a smaller sum only
  induction hn : i + j using Nat.strongRecOn generalizing i j with
  | ind n ih =>
    have hright : (∀ j' < j, ¬matched i j') ↔ ∀ j' < j, ¬other i j' :=
      forall₂_congr fun j' hlt => not_congr (ih (i + j') (by omega) i j' rfl)
    have hleft : (∀ i' < i, ¬matched i' j) ↔ ∀ i' < i, ¬other i' j :=
      forall₂_congr fun i' hlt => not_congr (ih (i' + j) (by omega) i' j rfl)
    rw [h i j, h' i j, hright, hleft]

/-- If the rows from the one after `i` on are matched greedily without column `j`, then all rows from
`i` on are, once `i` is matched with its first column `j`. -/
theorem cons {meets' : Nat → Nat → Prop} {i j : Nat} (h : IsGreedy meets' matched)
    (hself : meets i j) (hfirst : ∀ b < j, ¬meets i b) (hstart : ∀ a b, meets a b → i ≤ a)
    (hstart' : ∀ a b, meets' a b → i < a)
    (hrest : ∀ a b, i < a → (meets' a b ↔ meets a b ∧ b ≠ j)) :
    IsGreedy meets fun a b => (a = i ∧ b = j) ∨ matched a b := by
  have hmeets : ∀ a b, matched a b → meets' a b := fun a b hab => ((h a b).mp hab).1
  have hlater : ∀ a b, matched a b → i < a := fun a b hab => hstart' a b (hmeets a b hab)
  have hcolumn : ∀ a b, matched a b → b ≠ j := fun a b hab =>
    ((hrest a b (hlater a b hab)).mp (hmeets a b hab)).2
  intro a b
  constructor
  · rintro (⟨rfl, rfl⟩ | hab)
    · refine ⟨hself, ?_, ?_⟩
      · rintro b' hlt (⟨-, rfl⟩ | hab')
        · omega
        · exact Nat.lt_irrefl _ (hlater _ _ hab')
      · rintro a' hlt (⟨rfl, -⟩ | hab')
        · omega
        · exact hcolumn _ _ hab' rfl
    · obtain ⟨hab', hright, hleft⟩ := (h a b).mp hab
      have hlt := hlater a b hab
      refine ⟨((hrest a b hlt).mp hab').1, ?_, ?_⟩
      · rintro b' hb' (⟨rfl, -⟩ | hmatched)
        · omega
        · exact hright b' hb' hmatched
      · rintro a' ha' (⟨-, rfl⟩ | hmatched)
        · exact hcolumn a b hab rfl
        · exact hleft a' ha' hmatched
  · rintro ⟨hab, hright, hleft⟩
    rcases Nat.eq_or_lt_of_le (hstart a b hab) with rfl | hlt
    · -- the row takes its first column, since `hright` leaves no other one
      rcases Nat.lt_trichotomy b j with hbj | rfl | hbj
      · exact absurd hab (hfirst b hbj)
      · exact .inl ⟨rfl, rfl⟩
      · exact absurd (.inl ⟨rfl, rfl⟩) (hright j hbj)
    · have hne : b ≠ j := by
        rintro rfl
        exact hleft i hlt (.inl ⟨rfl, rfl⟩)
      refine .inr ((h a b).mpr ⟨(hrest a b hlt).mpr ⟨hab, hne⟩, ?_, ?_⟩)
      · exact fun b' hb' hmatched => hright b' hb' (.inr hmatched)
      · exact fun a' ha' hmatched => hleft a' ha' (.inr hmatched)

end IsGreedy

/-- A position of the right text, of which the entries from `n` on are given, is free and holds the
character sought within the window. -/
structure Free (c : Char) (low high : Int) (n : Nat) (text : List Char) (marks : List Bool)
    (j : Nat) : Prop where
  start : n ≤ j
  low : low ≤ j
  high : j < high
  char : text[j - n]? = some c
  unmarked : marks[j - n]? = some false

section Window

variable {c d : Char} {low high : Int} {n j : Nat} {text : List Char} {marks : List Bool}
  {marked : Bool}

theorem free_cons_self : Free c low high n (d :: text) (marked :: marks) n ↔
    (low ≤ n && n < high && !marked && d == c) = true := by
  simp only [Bool.and_eq_true, decide_eq_true_eq, Bool.not_eq_true', beq_iff_eq]
  constructor
  · intro h
    have hchar := h.char
    have hunmarked := h.unmarked
    simp only [Nat.sub_self, List.getElem?_cons_zero, Option.some.injEq] at hchar hunmarked
    exact ⟨⟨⟨h.low, h.high⟩, hunmarked⟩, hchar⟩
  · rintro ⟨⟨⟨hlow, hhigh⟩, rfl⟩, rfl⟩
    exact ⟨Nat.le_refl n, hlow, hhigh, by simp, by simp⟩

theorem free_cons_of_lt (hlt : n < j) : Free c low high n (d :: text) (marked :: marks) j ↔
    Free c low high (n + 1) text marks j := by
  have hsub : j - n = j - (n + 1) + 1 := by omega
  constructor
  · intro h
    have hchar := h.char
    have hunmarked := h.unmarked
    rw [hsub, List.getElem?_cons_succ] at hchar hunmarked
    exact ⟨hlt, h.low, h.high, hchar, hunmarked⟩
  · intro h
    refine ⟨Nat.le_of_lt hlt, h.low, h.high, ?_, ?_⟩
    · rw [hsub, List.getElem?_cons_succ]
      exact h.char
    · rw [hsub, List.getElem?_cons_succ]
      exact h.unmarked

/-- The search finds the first free position, and nothing if there is none. -/
theorem firstFree_spec (c : Char) (low high : Int) (n : Nat) (text : List Char)
    (marks : List Bool) :
    (∀ j, firstFree c low high n text marks = some j →
      Free c low high n text marks j ∧ ∀ j' < j, ¬Free c low high n text marks j') ∧
    (firstFree c low high n text marks = none → ∀ j, ¬Free c low high n text marks j) := by
  fun_induction firstFree c low high n text marks with
  | case1 n d text marked marks hfree =>
    have hself : Free c low high n (d :: text) (marked :: marks) n := free_cons_self.mpr hfree
    refine ⟨fun j hj => ?_, fun hnone => by simp at hnone⟩
    obtain rfl := Option.some.inj hj
    exact ⟨hself, fun j' hlt h => absurd h.start (by omega)⟩
  | case2 n d text marked marks hnot ih =>
    have hself : ¬Free c low high n (d :: text) (marked :: marks) n := fun h =>
      hnot (free_cons_self.mp h)
    have hrest : ∀ j, Free c low high n (d :: text) (marked :: marks) j →
        Free c low high (n + 1) text marks j := by
      intro j h
      rcases Nat.eq_or_lt_of_le h.start with rfl | hlt
      · exact absurd h hself
      · exact (free_cons_of_lt hlt).mp h
    refine ⟨fun j hj => ?_, fun hnone j h => ih.2 hnone j (hrest j h)⟩
    obtain ⟨hfree, hfirst⟩ := ih.1 j hj
    exact ⟨(free_cons_of_lt hfree.start).mpr hfree, fun j' hlt h => hfirst j' hlt (hrest j' h)⟩
  | case3 text n marks hshort =>
    refine ⟨fun j hj => by simp at hj, fun _ j h => ?_⟩
    cases text with
    | nil => simpa using h.char
    | cons d text =>
      cases marks with
      | nil => simpa using h.unmarked
      | cons marked marks => exact hshort d text marked marks rfl rfl

end Window

/-- The pairs of positions that the scan matches; its arguments are those of `matchFrom`. -/
def pairsFrom (distance : Int) (right : List Char) :
    Nat → List Char → List Bool → List (Nat × Nat)
  | _, [], _ => []
  | i, c :: text, marks =>
    match firstFree c (i - distance) (i + distance + 1) 0 right marks with
    | some j => (i, j) :: pairsFrom distance right (i + 1) text (marks.set j true)
    | none => pairsFrom distance right (i + 1) text marks

/-- A position of the left text, of which the characters from `i` on are given, and one of the right
text may be matched: they hold the same character, are no further apart than the distance, and the
right one is not marked. -/
structure MeetsFrom (distance : Int) (right : List Char) (i : Nat) (text : List Char)
    (marks : List Bool) (a b : Nat) : Prop where
  start : i ≤ a
  char : ∃ c, text[a - i]? = some c ∧ right[b]? = some c
  low : (a : Int) - distance ≤ b
  high : (b : Int) < a + distance + 1
  unmarked : marks[b]? = some false

section Scan

variable {distance : Int} {right text : List Char} {c : Char} {i j : Nat} {marks : List Bool}

theorem meetsFrom_cons_self {b : Nat} : MeetsFrom distance right i (c :: text) marks i b ↔
    Free c (i - distance) (i + distance + 1) 0 right marks b := by
  constructor
  · intro h
    obtain ⟨d, htext, hright⟩ := h.char
    simp only [Nat.sub_self, List.getElem?_cons_zero, Option.some.injEq] at htext
    subst htext
    exact ⟨Nat.zero_le b, h.low, h.high, hright, h.unmarked⟩
  · intro h
    exact ⟨Nat.le_refl i, ⟨c, by simp, h.char⟩, h.low, h.high, h.unmarked⟩

theorem meetsFrom_cons_of_lt {a b : Nat} (hlt : i < a) :
    MeetsFrom distance right i (c :: text) marks a b ↔
      MeetsFrom distance right (i + 1) text marks a b := by
  have hsub : (c :: text)[a - i]? = text[a - (i + 1)]? := by
    rw [show a - i = a - (i + 1) + 1 by omega, List.getElem?_cons_succ]
  constructor
  · rintro ⟨-, hchar, hlow, hhigh, hunmarked⟩
    exact ⟨hlt, hsub ▸ hchar, hlow, hhigh, hunmarked⟩
  · rintro ⟨-, hchar, hlow, hhigh, hunmarked⟩
    exact ⟨Nat.le_of_lt hlt, hsub.symm ▸ hchar, hlow, hhigh, hunmarked⟩

theorem meetsFrom_set {a b : Nat} : MeetsFrom distance right i text (marks.set j true) a b ↔
    MeetsFrom distance right i text marks a b ∧ b ≠ j := by
  have hmark : (marks.set j true)[b]? = some false ↔ marks[b]? = some false ∧ b ≠ j := by
    rw [List.getElem?_set]
    by_cases hbj : j = b
    · subst hbj
      simp
    · simp [hbj, Ne.symm hbj]
  constructor
  · rintro ⟨hstart, hchar, hlow, hhigh, hunmarked⟩
    obtain ⟨hunmarked, hne⟩ := hmark.mp hunmarked
    exact ⟨⟨hstart, hchar, hlow, hhigh, hunmarked⟩, hne⟩
  · rintro ⟨⟨hstart, hchar, hlow, hhigh, hunmarked⟩, hne⟩
    exact ⟨hstart, hchar, hlow, hhigh, hmark.mpr ⟨hunmarked, hne⟩⟩

/-- The pairs of the scan are matched greedily. -/
theorem isGreedy_pairsFrom (distance : Int) (right : List Char) (i : Nat) (text : List Char)
    (marks : List Bool) :
    IsGreedy (MeetsFrom distance right i text marks)
      fun a b => (a, b) ∈ pairsFrom distance right i text marks := by
  induction text generalizing i marks with
  | nil =>
    intro a b
    simp only [pairsFrom, List.not_mem_nil, false_iff]
    rintro ⟨⟨-, ⟨c, hc, -⟩, -⟩, -⟩
    simp at hc
  | cons c text ih =>
    obtain ⟨hsome, hnone⟩ := firstFree_spec c (i - distance) (i + distance + 1) 0 right marks
    rw [pairsFrom]
    cases hfree : firstFree c (i - distance) (i + distance + 1) 0 right marks with
    | none =>
      -- nothing meets row `i`, and the later rows meet the same columns
      refine (ih (i + 1) marks).congr fun a b => ?_
      constructor
      · exact fun h => (meetsFrom_cons_of_lt h.start).mpr h
      · intro h
        rcases Nat.eq_or_lt_of_le h.start with rfl | hlt
        · exact absurd (meetsFrom_cons_self.mp h) (hnone hfree b)
        · exact (meetsFrom_cons_of_lt hlt).mp h
    | some j =>
      -- row `i` takes its first column, and the mark takes that away from the later rows
      obtain ⟨hj, hfirst⟩ := hsome j hfree
      simp only [List.mem_cons, Prod.mk.injEq]
      refine (ih (i + 1) (marks.set j true)).cons (meetsFrom_cons_self.mpr hj) ?_
        (fun a b h => h.start) (fun a b h => h.start) fun a b hlt => ?_
      · exact fun b hb h => hfirst b hb (meetsFrom_cons_self.mp h)
      · rw [meetsFrom_set, meetsFrom_cons_of_lt hlt]

end Scan

/-- The pairs of positions of two texts that the scan matches. -/
def pairs (left right : List Char) (distance : Int) : List (Nat × Nat) :=
  pairsFrom distance right 0 left (List.replicate right.length false)

/-- Two positions may be matched: they hold the same character and are no further apart than the
distance. -/
structure Meets (left right : List Char) (distance : Int) (a b : Nat) : Prop where
  char : ∃ c, left[a]? = some c ∧ right[b]? = some c
  ahead : (a : Int) - b ≤ distance
  behind : (b : Int) - a ≤ distance

section Pairs

variable {left right : List Char} {distance : Int} {a b : Nat}

theorem Meets.swap (h : Meets left right distance a b) : Meets right left distance b a := by
  obtain ⟨c, hleft, hright⟩ := h.char
  exact ⟨⟨c, hright, hleft⟩, h.behind, h.ahead⟩

theorem meets_iff_meetsFrom : Meets left right distance a b ↔
    MeetsFrom distance right 0 left (List.replicate right.length false) a b := by
  constructor
  · rintro ⟨⟨c, hleft, hright⟩, hahead, hbehind⟩
    obtain ⟨hlt, -⟩ := List.getElem?_eq_some_iff.mp hright
    exact ⟨Nat.zero_le a, ⟨c, hleft, hright⟩, by omega, by omega, by simp [hlt]⟩
  · rintro ⟨-, hchar, hlow, hhigh, -⟩
    exact ⟨hchar, by omega, by omega⟩

/-- The pairs that the scan matches are matched greedily. -/
theorem isGreedy_pairs (left right : List Char) (distance : Int) :
    IsGreedy (Meets left right distance) fun a b => (a, b) ∈ pairs left right distance :=
  (isGreedy_pairsFrom distance right 0 left _).congr fun _ _ => meets_iff_meetsFrom.symm

/-- The scan matches the same pairs from either text. -/
theorem mem_pairs_swap : (b, a) ∈ pairs right left distance ↔ (a, b) ∈ pairs left right distance :=
  ((isGreedy_pairs right left distance).swap.congr fun _ _ => ⟨Meets.swap, Meets.swap⟩).unique
    (isGreedy_pairs left right distance) a b

end Pairs

end DidYouMean.Similarity
