import Mathlib.Data.List.Basic
import Mathlib.Data.List.Induction

/-!
# Lists without repeats

What is left of a list when entries are left out that occurred before.

## Main statements

- `eraseDups_append_singleton`: only an entry that is new is added
- `pairwise_idxOf_eraseDups`: the entries keep the order in which they first occur
-/

namespace DidYouMean

variable {β : Type} [DecidableEq β] {xs : List β} {x : β}

theorem eraseDups_append_singleton (xs : List β) (x : β) :
    (xs ++ [x]).eraseDups = if x ∈ xs then xs.eraseDups else xs.eraseDups ++ [x] := by
  rw [List.eraseDups_append]
  by_cases hmem : x ∈ xs <;> simp [List.removeAll, List.eraseDups_cons, hmem]

theorem idxOf_append_singleton (hx : x ∉ xs) : (xs ++ [x]).idxOf x = xs.length := by
  simp [List.idxOf_append_of_notMem hx]

/-- Leaving out repeats keeps the entries in the order in which they first occur. -/
theorem pairwise_idxOf_eraseDups (xs : List β) :
    xs.eraseDups.Pairwise fun a b => xs.idxOf a < xs.idxOf b := by
  induction xs using List.reverseRecOn with
  | nil => simp
  | append_singleton xs x ih =>
    have hfirst : xs.eraseDups.Pairwise
        fun a b => (xs ++ [x]).idxOf a < (xs ++ [x]).idxOf b := by
      refine ih.imp_of_mem fun {a b} ha hb hlt => ?_
      rw [List.idxOf_append_of_mem (List.mem_eraseDups.mp ha),
        List.idxOf_append_of_mem (List.mem_eraseDups.mp hb)]
      exact hlt
    rw [eraseDups_append_singleton]
    by_cases hmem : x ∈ xs
    · rw [if_pos hmem]
      exact hfirst
    · rw [if_neg hmem, List.pairwise_append]
      refine ⟨hfirst, by simp, fun a ha b hb => ?_⟩
      obtain rfl := List.mem_singleton.mp hb
      have ha := List.mem_eraseDups.mp ha
      rw [List.idxOf_append_of_mem ha, idxOf_append_singleton hmem]
      exact List.idxOf_lt_length_of_mem ha

theorem nodup_eraseDups (xs : List β) : xs.eraseDups.Nodup := by
  refine (pairwise_idxOf_eraseDups xs).imp ?_
  rintro a _ hlt rfl
  exact Nat.lt_irrefl _ hlt

end DidYouMean
