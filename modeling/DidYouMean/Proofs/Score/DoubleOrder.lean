import DidYouMean.Arith
import Mathlib.Algebra.Order.Group.Int
import Mathlib.Algebra.Order.Group.Unbundled.Basic
import Mathlib.Data.Prod.Lex

/-!
# The order of doubles

Doubles other than NaN are in a row, in which the two zeros are at one place.  NaN is not comparable
with anything, itself included, so that `x ≤ x` says that `x` is a number.

## Main definitions

- `linePlace?`: the place of a number in that row

## Main statements

- `double_lt_iff`, `double_le_iff`: doubles compare as their places do
- `double_not_lt_iff`: one number is not less than another one if and only if that one is at most
  as large
-/

namespace DidYouMean

open Float.Model

/-- The place of a number among all others: by sign and kind, then exponent, then mantissa.  The
order of negative numbers is the reverse of that of their magnitudes. -/
def linePlace? : UnpackedFloat → Option (ℤ ×ₗ ℤ ×ₗ ℤ)
  | .notANumber => none
  | .infinity .negative => some (toLex (-2, toLex (0, 0)))
  | .finite .negative m e _ => some (toLex (-1, toLex (-e, -m)))
  | .zero _ => some (toLex (0, toLex (0, 0)))
  | .finite .positive m e _ => some (toLex (1, toLex (e, m)))
  | .infinity .positive => some (toLex (2, toLex (0, 0)))

theorem compare_toLex (a b c a' b' c' : ℤ) :
    compare (toLex (a, toLex (b, c))) (toLex (a', toLex (b', c'))) =
      (compare a a').then ((compare b b').then (compare c c')) := by
  simp [Prod.Lex.compare_def, compareLex, compareOn]

theorem compare_neg_neg (a b : ℤ) : compare (-a) (-b) = (compare a b).swap := by
  rw [Int.compare_swap, Int.compare_eq_ite_lt, Int.compare_eq_ite_lt]
  simp only [neg_lt_neg_iff]

theorem compare_natCast (m n : ℕ) : compare (m : ℤ) n = compare m n := by
  rw [Int.compare_eq_ite_lt, Nat.compare_eq_ite_lt]
  simp only [Int.ofNat_lt]

/-- Two doubles are comparable if both are numbers, and then they compare as their places do. -/
theorem compare_eq_compare_linePlace (x y : UnpackedFloat) :
    x.compare y = (linePlace? x).bind fun a => (linePlace? y).map (compare a) := by
  -- of all pairs of kinds, only finite numbers of one sign are told apart by their magnitudes
  rcases x with (_ | _) | _ | _ | ⟨_ | _, m, e, _⟩ <;>
    rcases y with (_ | _) | _ | _ | ⟨_ | _, m', e', _⟩ <;>
      dsimp only [linePlace?, UnpackedFloat.compare, Option.bind_some, Option.map_some] <;>
      simp [compare_toLex, compare_neg_neg, compare_natCast, Ordering.swap_then] <;> rfl

theorem double_lt_iff {x y : Float} : x < y ↔
    ∃ a ∈ linePlace? x.toModel.unpack, ∃ b ∈ linePlace? y.toModel.unpack, a < b := by
  have hmodel : x < y ↔ (x.toModel.unpack.compare y.toModel.unpack == some .lt) = true := by
    change Float.lt x y = true ↔ _
    rw [Float.lt, decide_eq_true_iff]
    exact Iff.rfl
  rw [hmodel, beq_iff_eq, compare_eq_compare_linePlace]
  simp [Option.bind_eq_some_iff, compare_lt_iff_lt]

theorem double_le_iff {x y : Float} : x ≤ y ↔
    ∃ a ∈ linePlace? x.toModel.unpack, ∃ b ∈ linePlace? y.toModel.unpack, a ≤ b := by
  have hmodel : x ≤ y ↔ (x.toModel.unpack.compare y.toModel.unpack).any (·.isLE) = true := by
    change Float.le x y = true ↔ _
    rw [Float.le, decide_eq_true_iff]
    exact Iff.rfl
  rw [hmodel, compare_eq_compare_linePlace]
  cases linePlace? x.toModel.unpack <;> cases linePlace? y.toModel.unpack <;>
    simp [← compare_le_iff_le, Ordering.ne_gt_iff_isLE]

section Laws

variable {x y : Float}

theorem double_lt_irrefl (x : Float) : ¬x < x := by
  rw [double_lt_iff]
  rintro ⟨a, ha, b, hb, hlt⟩
  cases Option.mem_unique ha hb
  exact lt_irrefl _ hlt

/-- What is comparable is a number. -/
theorem double_le_self_left (h : x ≤ y) : x ≤ x := by
  rw [double_le_iff] at h ⊢
  obtain ⟨a, ha, -⟩ := h
  exact ⟨a, ha, a, ha, le_rfl⟩

theorem double_le_self_right (h : x ≤ y) : y ≤ y := by
  rw [double_le_iff] at h ⊢
  obtain ⟨-, -, b, hb, -⟩ := h
  exact ⟨b, hb, b, hb, le_rfl⟩

theorem double_le_trans {z : Float} (hxy : x ≤ y) (hyz : y ≤ z) : x ≤ z := by
  rw [double_le_iff] at hxy hyz ⊢
  obtain ⟨a, ha, b, hb, hab⟩ := hxy
  obtain ⟨b', hb', c, hc, hbc⟩ := hyz
  cases Option.mem_unique hb hb'
  exact ⟨a, ha, c, hc, hab.trans hbc⟩

theorem double_lt_of_lt_of_le {z : Float} (hxy : x < y) (hyz : y ≤ z) : x < z := by
  rw [double_lt_iff] at hxy ⊢
  rw [double_le_iff] at hyz
  obtain ⟨a, ha, b, hb, hab⟩ := hxy
  obtain ⟨b', hb', c, hc, hbc⟩ := hyz
  cases Option.mem_unique hb hb'
  exact ⟨a, ha, c, hc, hab.trans_le hbc⟩

theorem double_lt_of_le_of_lt {z : Float} (hxy : x ≤ y) (hyz : y < z) : x < z := by
  rw [double_lt_iff] at hyz ⊢
  rw [double_le_iff] at hxy
  obtain ⟨a, ha, b, hb, hab⟩ := hxy
  obtain ⟨b', hb', c, hc, hbc⟩ := hyz
  cases Option.mem_unique hb hb'
  exact ⟨a, ha, c, hc, hab.trans_lt hbc⟩

theorem double_le_of_lt (h : x < y) : x ≤ y := by
  rw [double_lt_iff] at h
  obtain ⟨a, ha, b, hb, hlt⟩ := h
  rw [double_le_iff]
  exact ⟨a, ha, b, hb, hlt.le⟩

/-- Numbers are in one order or the other. -/
theorem double_not_lt_iff (hx : x ≤ x) (hy : y ≤ y) : ¬x < y ↔ y ≤ x := by
  rw [double_le_iff] at hx hy
  obtain ⟨a, ha, -⟩ := hx
  obtain ⟨b, hb, -⟩ := hy
  simp only [Option.mem_def] at ha hb
  simp [double_lt_iff, double_le_iff, ha, hb]

theorem double_not_lt_of_le (h : y ≤ x) : ¬x < y :=
  (double_not_lt_iff (double_le_self_right h) (double_le_self_left h)).mpr h

theorem double_le_of_not_le (hx : x ≤ x) (hy : y ≤ y) (h : ¬y ≤ x) : x ≤ y := by
  refine double_le_of_lt ?_
  by_contra hnot
  exact h ((double_not_lt_iff hx hy).mp hnot)

end Laws

end DidYouMean
