import DidYouMean.Arith
import Mathlib.Data.List.Basic

/-!
# Orders of scores

Rankings compare scores and nothing else is known of the arithmetic that they come from.  What the
laws of a ranking need is that comparison puts the scores that occur in a row.

## Main definitions

- `Comparable`: comparison is a total order on a list of scores
- `Linear`: the same, and scores that count as equal are equal

## Main statements

- `pairwise_mergeSort_of_mem`: sorting by an order that has its laws on the list alone
- `map_mergeSort_of_pairwise`: what sorting needs of two orders to sort a list alike

## Design notes

A lexicographic order takes the form `y < x ∨ ¬x < y ∧ p` here, where `p` decides between equal
scores.  Its laws follow from those of `p`, so that they can be applied score by score.
-/

namespace DidYouMean

variable {α : Type} [Arith α]

/-- Comparison is a total order on the scores.  Scores of which neither is less than the other one,
such as the two zeros of a floating-point format, count as equal. -/
structure Comparable (scores : List α) : Prop where
  asymm : ∀ a ∈ scores, ∀ b ∈ scores, a < b → ¬b < a
  negTrans : ∀ a ∈ scores, ∀ b ∈ scores, ∀ c ∈ scores, ¬a < b → ¬b < c → ¬a < c

instance (scores : List α) : Decidable (Comparable scores) :=
  decidable_of_iff
    ((∀ a ∈ scores, ∀ b ∈ scores, a < b → ¬b < a) ∧
      ∀ a ∈ scores, ∀ b ∈ scores, ∀ c ∈ scores, ¬a < b → ¬b < c → ¬a < c)
    ⟨fun h => ⟨h.1, h.2⟩, fun h => ⟨h.asymm, h.negTrans⟩⟩

/-- Comparison is a linear order on the scores: no two of them count as equal. -/
structure Linear (scores : List α) : Prop extends Comparable scores where
  eq_of_not_lt : ∀ a ∈ scores, ∀ b ∈ scores, ¬a < b → ¬b < a → a = b

/-- Two pairs of a score and a tie-breaker can be told apart in one way or the other. -/
theorem lex_total {x y : α} {p q : Prop} (hpq : p ∨ q) :
    (y < x ∨ ¬x < y ∧ p) ∨ (x < y ∨ ¬y < x ∧ q) := by
  by_cases hxy : x < y
  · exact .inr (.inl hxy)
  · by_cases hyx : y < x
    · exact .inl (.inl hyx)
    · exact hpq.imp (fun hp => .inr ⟨hxy, hp⟩) (fun hq => .inr ⟨hyx, hq⟩)

namespace Comparable

variable {scores : List α} {x y z : α} {p q r : Prop}

theorem mono {fewer : List α} (h : Comparable scores) (hsub : ∀ a ∈ fewer, a ∈ scores) :
    Comparable fewer :=
  ⟨fun a ha b hb => h.asymm a (hsub a ha) b (hsub b hb),
    fun a ha b hb c hc => h.negTrans a (hsub a ha) b (hsub b hb) c (hsub c hc)⟩

theorem irrefl (h : Comparable scores) (hx : x ∈ scores) : ¬x < x :=
  fun hlt => h.asymm x hx x hx hlt hlt

theorem lt_of_lt_of_not_lt (h : Comparable scores) (hx : x ∈ scores) (hy : y ∈ scores)
    (hz : z ∈ scores) (hxy : x < y) (hzy : ¬z < y) : x < z := by
  by_contra hxz
  exact h.negTrans x hx z hz y hy hxz hzy hxy

theorem lt_of_not_lt_of_lt (h : Comparable scores) (hx : x ∈ scores) (hy : y ∈ scores)
    (hz : z ∈ scores) (hyx : ¬y < x) (hyz : y < z) : x < z := by
  by_contra hxz
  exact h.negTrans y hy x hx z hz hyx hxz hyz

theorem lt_trans (h : Comparable scores) (hx : x ∈ scores) (hy : y ∈ scores)
    (hz : z ∈ scores) (hxy : x < y) (hyz : y < z) : x < z :=
  h.lt_of_lt_of_not_lt hx hy hz hxy (h.asymm y hy z hz hyz)

theorem lex_trans (h : Comparable scores) (hx : x ∈ scores) (hy : y ∈ scores)
    (hz : z ∈ scores) (hpq : p → q → r) (hxy : y < x ∨ ¬x < y ∧ p)
    (hyz : z < y ∨ ¬y < z ∧ q) : z < x ∨ ¬x < z ∧ r := by
  rcases hxy with hxy | ⟨hxy, hp⟩
  · rcases hyz with hyz | ⟨hyz, -⟩
    · exact .inl (h.lt_trans hz hy hx hyz hxy)
    · exact .inl (h.lt_of_not_lt_of_lt hz hy hx hyz hxy)
  · rcases hyz with hyz | ⟨hyz, hq⟩
    · exact .inl (h.lt_of_lt_of_not_lt hz hy hx hyz hxy)
    · exact .inr ⟨h.negTrans x hx y hy z hz hxy hyz, hpq hp hq⟩

theorem lex_antisymm (h : Comparable scores) (hx : x ∈ scores) (hy : y ∈ scores)
    (hxy : y < x ∨ ¬x < y ∧ p) (hyx : x < y ∨ ¬y < x ∧ q) : p ∧ q := by
  rcases hxy with hxy | ⟨hxy, hp⟩
  · rcases hyx with hyx | ⟨hyx, -⟩
    · exact absurd hyx (h.asymm y hy x hx hxy)
    · exact absurd hxy hyx
  · rcases hyx with hyx | ⟨-, hq⟩
    · exact absurd hyx hxy
    · exact ⟨hp, hq⟩

end Comparable

theorem Linear.mono {scores fewer : List α} (h : Linear scores) (hsub : ∀ a ∈ fewer, a ∈ scores) :
    Linear fewer :=
  ⟨h.toComparable.mono hsub, fun a ha b hb => h.eq_of_not_lt a (hsub a ha) b (hsub b hb)⟩

/-- Places are in order. -/
theorem pairwise_snd_zipIdx {β : Type} (xs : List β) : xs.zipIdx.Pairwise fun a b => a.2 < b.2 := by
  rw [← List.pairwise_map (f := Prod.snd), List.zipIdx_map_snd]
  exact List.pairwise_lt_range'

/-- Sorting by an order that is transitive and total on the list at least. -/
theorem pairwise_mergeSort_of_mem {β : Type} {le : β → β → Bool} {xs : List β}
    (trans : ∀ a ∈ xs, ∀ b ∈ xs, ∀ c ∈ xs, le a b → le b c → le a c)
    (total : ∀ a ∈ xs, ∀ b ∈ xs, le a b ∨ le b a) :
    (xs.mergeSort le).Pairwise fun a b => le a b := by
  let le' : {x // x ∈ xs} → {x // x ∈ xs} → Bool := fun a b => le a.1 b.1
  have hsort : (xs.attach.mergeSort le').map Subtype.val = xs.mergeSort le := by
    rw [List.map_mergeSort (s := le) (fun _ _ _ _ => rfl), List.attach_map_subtype_val]
  rw [← hsort, List.pairwise_map]
  refine List.pairwise_mergeSort ?_ ?_ _
  · intro a b c hab hbc
    exact trans a.1 a.2 b.1 b.2 c.1 c.2 hab hbc
  · intro a b
    simpa [le'] using total a.1 a.2 b.1 b.2

open List.MergeSort.Internal in
/-- Sorting only ever asks whether an entry comes before one that is later in the list. -/
theorem map_mergeSort_of_pairwise {β γ : Type} {f : β → γ} {r : β → β → Bool} {s : γ → γ → Bool}
    (xs : List β) (h : xs.Pairwise fun a b => r a b = s (f a) (f b)) :
    (xs.mergeSort r).map f = (xs.map f).mergeSort s := by
  match xs with
  | [] => simp
  | [x] => simp
  | x :: y :: rest =>
    let half := ((x :: y :: rest).length + 1) / 2
    have hfirst := map_mergeSort_of_pairwise ((x :: y :: rest).take half)
      (h.sublist (List.take_sublist _ _))
    have hsecond := map_mergeSort_of_pairwise ((x :: y :: rest).drop half)
      (h.sublist (List.drop_sublist _ _))
    -- the two halves are merged, and each question is about one entry of either
    have hacross : ∀ a ∈ ((x :: y :: rest).take half).mergeSort r,
        ∀ b ∈ ((x :: y :: rest).drop half).mergeSort r, r a b = s (f a) (f b) := by
      intro a ha b hb
      rw [← List.take_append_drop half (x :: y :: rest), List.pairwise_append] at h
      exact h.2.2 a (List.mem_mergeSort.mp ha) b (List.mem_mergeSort.mp hb)
    have hmerge := List.map_merge hacross
    rw [hfirst, hsecond] at hmerge
    simpa [List.mergeSort, splitInTwo_fst, splitInTwo_snd, half] using hmerge
  termination_by xs.length
  decreasing_by
    all_goals
      simp only [List.length_take, List.length_drop, List.length_cons]
      omega

end DidYouMean
