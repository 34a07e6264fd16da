/-!
# Limits on result lists

A limit keeps that many entries of a list; a negative one drops that many from its end; no limit
keeps them all.
-/

namespace DidYouMean

/-- How many entries of a list are wanted. -/
abbrev Limit := Option Int

/-- The entries that a limit keeps. -/
def Limit.take {β : Type} (limit : Limit) (xs : List β) : List β :=
  match limit with
  | none => xs
  | some n => if 0 ≤ n then xs.take n.toNat else xs.take (xs.length - n.natAbs)

/-- A limit only looks at the length of a list. -/
theorem Limit.map_take {β γ : Type} (limit : Limit) (f : β → γ) (xs : List β) :
    (limit.take xs).map f = limit.take (xs.map f) := by
  cases limit with
  | none => rfl
  | some n =>
    simp only [Limit.take, List.length_map]
    split <;> rw [List.map_take]

/-- A limit only leaves entries out. -/
theorem Limit.take_sublist {β : Type} (limit : Limit) (xs : List β) :
    (limit.take xs).Sublist xs := by
  cases limit with
  | none => exact List.Sublist.refl xs
  | some n =>
    rw [Limit.take]
    split <;> exact List.take_sublist _ xs

theorem Limit.mem_of_mem_take {β : Type} {x : β} {xs : List β} (limit : Limit)
    (h : x ∈ limit.take xs) : x ∈ xs :=
  (limit.take_sublist xs).mem h

theorem Limit.take_natCast {β : Type} (n : Nat) (xs : List β) :
    Limit.take (some (n : Int)) xs = xs.take n := by
  rw [Limit.take, if_pos (Int.natCast_nonneg n), Int.toNat_natCast]

def Limit.usual : Limit := some 5

end DidYouMean
