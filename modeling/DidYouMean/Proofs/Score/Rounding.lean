import Mathlib

/-!
# Rounding to a double

An exact value, in units of the least positive double, is rounded by dropping the bits that there is no
room for and choosing the nearer neighbour.  That is done on a mantissa with two more bits for what was
dropped, and a carry may make one more shift necessary.

## Main definitions

- `nearest`: the natural number next to `n / 2 ^ k`
- `rounded`: an exact value, rounded to as many bits as a double has
- `Canonical`: the form that rounding gives to a mantissa and an exponent
- `Settled`: a number in this form, with its exact value

## Main statements

- `rounded_mono`: rounding keeps the order of exact values
- `rounded_mul_two_pow`: what fits is kept
- `exists_settled`: what the rounding of a mantissa with enough bits gives
- `exists_settled_le`, `exists_le_settled`: it does not pass a double that the exact value does not pass
- `settled_round`: what the rounding of any positive mantissa gives
-/

namespace DidYouMean.Rounding

open Float.Model UnpackedFloat

section Shifting

variable {em em' : ExtendedMantissa}

/-- A mantissa and the bits that were shifted out of it, as one number. -/
def weight (em : ExtendedMantissa) : ℕ :=
  4 * em.mantissa + 2 * em.roundBit.toNat + em.stickyBit.toNat

theorem shiftRight_succ (em : ExtendedMantissa) (k : ℕ) :
    em >>> (k + 1) = (em >>> k).shiftRightOne :=
  rfl

theorem shiftRight_add (em : ExtendedMantissa) (j k : ℕ) : em >>> (j + k) = (em >>> j) >>> k := by
  induction k with
  | zero => rfl
  | succ k ih => rw [shiftRight_succ, ← ih, ← Nat.add_assoc, shiftRight_succ]

theorem weight_shiftRightOne (em : ExtendedMantissa) :
    weight em.shiftRightOne = 2 * em.mantissa + (em.roundBit || em.stickyBit).toNat := by
  simp only [weight, ExtendedMantissa.shiftRightOne]
  rcases Nat.mod_two_eq_zero_or_one em.mantissa with hm | hm <;> simp [hm] <;> omega

theorem weight_shiftRightOne_le (h : weight em ≤ weight em') :
    weight em.shiftRightOne ≤ weight em'.shiftRightOne := by
  rw [weight_shiftRightOne, weight_shiftRightOne]
  obtain ⟨m, r, s⟩ := em
  obtain ⟨m', r', s'⟩ := em'
  simp only [weight] at h
  cases r <;> cases s <;> cases r' <;> cases s' <;> simp at h ⊢ <;> omega

theorem weight_shiftRight_le (h : weight em ≤ weight em') (k : ℕ) :
    weight (em >>> k) ≤ weight (em' >>> k) := by
  induction k with
  | zero => exact h
  | succ k ih => exact weight_shiftRightOne_le ih

theorem roundedMantissa_le (h : weight em ≤ weight em') :
    em.roundedMantissa ≤ em'.roundedMantissa := by
  obtain ⟨m, r, s⟩ := em
  obtain ⟨m', r', s'⟩ := em'
  simp only [weight] at h
  cases r <;> cases s <;> cases r' <;> cases s' <;>
    simp [ExtendedMantissa.roundedMantissa, ExtendedMantissa.accuracy,
      Accuracy.roundToNearestEven] at h ⊢ <;> omega

/-- Rounding goes to one of the two neighbours. -/
theorem roundedMantissa_bounds (em : ExtendedMantissa) :
    em.mantissa ≤ em.roundedMantissa ∧ em.roundedMantissa ≤ em.mantissa + 1 := by
  obtain ⟨m, _ | _, _ | _⟩ := em <;>
    simp [ExtendedMantissa.roundedMantissa, ExtendedMantissa.accuracy,
      Accuracy.roundToNearestEven]
  omega

theorem mantissa_shiftRight (em : ExtendedMantissa) (k : ℕ) :
    (em >>> k).mantissa = em.mantissa / 2 ^ k := by
  induction k with
  | zero => exact (Nat.div_one _).symm
  | succ k ih =>
    rw [shiftRight_succ, pow_succ, ← Nat.div_div_eq_div_mul, ← ih]
    rfl

/-- The weight of a quotient with its accuracy is not above a number that the exact quotient is not
above. -/
theorem weight_quotient_le {a b n : ℕ} (h : a ≤ n * b) :
    weight (ExtendedMantissa.ofMantissaAndAccuracy (a / b) (accuracyOfFraction (a % b) b)) ≤
      4 * n := by
  rw [accuracyOfFraction]
  split_ifs with hrest
  · have hle : a / b ≤ n := Nat.div_le_of_le_mul (by rwa [mul_comm])
    simpa [weight, ExtendedMantissa.ofMantissaAndAccuracy] using hle
  · have hlt : a / b < n := by
      refine Nat.lt_of_mul_lt_mul_left (a := b) ?_
      have hdiv := Nat.div_add_mod a b
      rw [mul_comm b n]
      omega
    cases compare (2 * (a % b)) b <;>
      simp [weight, ExtendedMantissa.ofMantissaAndAccuracy] <;> omega

end Shifting

section Nearest

/-- The natural number next to `n / 2 ^ k`, and the even one if two are equally near. -/
def nearest (n k : ℕ) : ℕ :=
  (ExtendedMantissa.mk n false false >>> k).roundedMantissa

theorem nearest_mono {n n' : ℕ} (h : n ≤ n') (k : ℕ) : nearest n k ≤ nearest n' k := by
  refine roundedMantissa_le (weight_shiftRight_le ?_ k)
  simp only [weight, Bool.toNat_false]
  omega

theorem div_le_nearest (n k : ℕ) : n / 2 ^ k ≤ nearest n k ∧ nearest n k ≤ n / 2 ^ k + 1 := by
  have hbounds := roundedMantissa_bounds (ExtendedMantissa.mk n false false >>> k)
  rwa [mantissa_shiftRight] at hbounds

theorem shiftRight_mul_two_pow (n j : ℕ) :
    ExtendedMantissa.mk (n * 2 ^ j) false false >>> j = .mk n false false := by
  induction j generalizing n with
  | zero => simp [HShiftRight.hShiftRight, Nat.repeat]
  | succ j ih =>
    rw [pow_succ', ← mul_assoc, shiftRight_succ, ih]
    simp [ExtendedMantissa.shiftRightOne]

/-- Only the quotient counts. -/
theorem nearest_mul_two_pow (n j k : ℕ) : nearest (n * 2 ^ j) (j + k) = nearest n k := by
  rw [nearest, shiftRight_add, shiftRight_mul_two_pow, nearest]

/-- Rounding does not pass a number that the exact value does not pass, from either side. -/
theorem roundedMantissa_shiftRight_le {em : ExtendedMantissa} {n k : ℕ}
    (h : weight em ≤ 4 * (n * 2 ^ k)) : (em >>> k).roundedMantissa ≤ n := by
  have hweight : weight em ≤ weight (.mk (n * 2 ^ k) false false) := by
    simpa [weight] using h
  have hle := roundedMantissa_le (weight_shiftRight_le hweight k)
  rwa [shiftRight_mul_two_pow] at hle

theorem le_roundedMantissa_shiftRight {em : ExtendedMantissa} {n k : ℕ}
    (h : 4 * (n * 2 ^ k) ≤ weight em) : n ≤ (em >>> k).roundedMantissa := by
  have hweight : weight (.mk (n * 2 ^ k) false false) ≤ weight em := by
    simpa [weight] using h
  have hle := roundedMantissa_le (weight_shiftRight_le hweight k)
  rwa [shiftRight_mul_two_pow] at hle

theorem nearest_zero (n : ℕ) : nearest n 0 = n := rfl

end Nearest

section Rounding

/-- How many bits of an exact value a double has no room for. -/
def excess (n : ℕ) : ℕ := n.log2 - 52

/-- An exact value, rounded to as many bits as a double has. -/
def rounded (n : ℕ) : ℕ := nearest n (excess n) * 2 ^ excess n

theorem div_excess_lt (n : ℕ) : n / 2 ^ excess n < 2 ^ 53 := by
  rw [Nat.div_lt_iff_lt_mul (Nat.two_pow_pos _), ← pow_add]
  refine lt_of_lt_of_le Nat.lt_log2_self (Nat.pow_le_pow_right two_pos ?_)
  rw [excess]
  omega

theorem le_div_excess {n : ℕ} (h : 0 < excess n) : 2 ^ 52 ≤ n / 2 ^ excess n := by
  rw [excess] at h
  rw [Nat.le_div_iff_mul_le (Nat.two_pow_pos _), ← pow_add, excess,
    show 52 + (n.log2 - 52) = n.log2 by omega]
  refine Nat.log2_self_le ?_
  rintro rfl
  simp at h

theorem log2_mul_two_pow {m : ℕ} (hm : m ≠ 0) (j : ℕ) : (m * 2 ^ j).log2 = m.log2 + j := by
  induction j with
  | zero => simp
  | succ j ih =>
    rw [pow_succ, ← mul_assoc, Nat.log2_eq_log_two, Nat.log_mul_base one_lt_two (by positivity),
      ← Nat.log2_eq_log_two, ih, add_assoc]

theorem rounded_mono {n n' : ℕ} (h : n ≤ n') : rounded n ≤ rounded n' := by
  have hlog : n.log2 ≤ n'.log2 := by
    rw [Nat.log2_eq_log_two, Nat.log2_eq_log_two]
    exact Nat.log_mono_right h
  have hexcess : excess n ≤ excess n' := Nat.sub_le_sub_right hlog 52
  rcases Nat.eq_or_lt_of_le hexcess with heq | hlt
  · rw [rounded, rounded, heq]
    exact Nat.mul_le_mul_right _ (nearest_mono h _)
  · -- a power of two is between the two values, and rounding does not pass it
    have hbelow : nearest n (excess n) ≤ 2 ^ 53 :=
      (div_le_nearest n _).2.trans (div_excess_lt n)
    have habove : 2 ^ 52 ≤ nearest n' (excess n') :=
      (le_div_excess (Nat.zero_lt_of_lt hlt)).trans (div_le_nearest n' _).1
    rw [rounded, rounded]
    calc nearest n (excess n) * 2 ^ excess n
      _ ≤ 2 ^ 53 * 2 ^ excess n := Nat.mul_le_mul_right _ hbelow
      _ = 2 ^ 52 * 2 ^ (excess n + 1) := by rw [pow_succ]; ring
      _ ≤ 2 ^ 52 * 2 ^ excess n' := Nat.mul_le_mul_left _ (Nat.pow_le_pow_right two_pos hlt)
      _ ≤ nearest n' (excess n') * 2 ^ excess n' := Nat.mul_le_mul_right _ habove

theorem rounded_mul_two_pow {m : ℕ} (h : m < 2 ^ 53) (j : ℕ) : rounded (m * 2 ^ j) = m * 2 ^ j := by
  rcases Nat.eq_zero_or_pos m with rfl | hpos
  · rw [zero_mul]
    rfl
  have hlog : m.log2 < 53 := (Nat.log2_lt hpos.ne').mpr h
  obtain ⟨k, hk⟩ : ∃ k, excess (m * 2 ^ j) = k := ⟨_, rfl⟩
  have hexcess : k ≤ j := by
    rw [← hk, excess, log2_mul_two_pow hpos.ne']
    omega
  obtain ⟨i, rfl⟩ := Nat.exists_eq_add_of_le hexcess
  have hsplit : m * 2 ^ (k + i) = m * 2 ^ i * 2 ^ k := by ring
  have hnearest := nearest_mul_two_pow (m * 2 ^ i) k 0
  rw [add_zero, nearest_zero] at hnearest
  rw [rounded, hk, hsplit, hnearest]

end Rounding

/-- A mantissa and an exponent, counted from the least one, have the form that rounding gives them:
as much of the mantissa is in use as possible. -/
structure Canonical (m j : ℕ) : Prop where
  lt : m < 2 ^ 53
  full : 0 < j → 2 ^ 52 ≤ m

/-- A mantissa with all bits in use has no larger exponent than one whose exact value is not smaller. -/
theorem exponent_le {m c i j : ℕ} (hfull : 2 ^ 52 ≤ m) (hc : c < 2 ^ 53)
    (h : m * 2 ^ i ≤ c * 2 ^ j) : i ≤ j := by
  have hpow : 2 ^ (52 + i) < 2 ^ (53 + j) := by
    calc 2 ^ (52 + i)
      _ = 2 ^ 52 * 2 ^ i := pow_add _ _ _
      _ ≤ c * 2 ^ j := (Nat.mul_le_mul_right _ hfull).trans h
      _ < 2 ^ 53 * 2 ^ j := Nat.mul_lt_mul_of_pos_right hc (Nat.two_pow_pos _)
      _ = 2 ^ (53 + j) := (pow_add _ _ _).symm
  have hexponents := (Nat.pow_lt_pow_iff_right one_lt_two).mp hpow
  omega

section Range

variable {m j : ℕ}

/-- The greatest exponent of a double, counted from the least one. -/
def topExponent : ℕ := 2045

/-- The least exact value that is too large for a double, in units of the least positive double. -/
def overflow : ℕ := 2 ^ 52 * 2 ^ (topExponent + 1)

theorem overflow_pos : 0 < overflow :=
  Nat.mul_pos (Nat.two_pow_pos _) (Nat.two_pow_pos _)

theorem rounded_overflow : rounded overflow = overflow := by
  have hlt : 2 ^ 52 < 2 ^ 53 := by decide
  rw [overflow, rounded_mul_two_pow hlt]

theorem Canonical.lt_two_pow (h : Canonical m j) : m * 2 ^ j < 2 ^ 52 * 2 ^ (j + 1) := by
  calc m * 2 ^ j
    _ < 2 ^ 53 * 2 ^ j := Nat.mul_lt_mul_of_pos_right h.lt (Nat.two_pow_pos _)
    _ = 2 ^ 52 * 2 ^ (j + 1) := by rw [pow_succ 2 52, pow_succ 2 j]; ring

/-- Canonical numbers are in the order of their exponents first. -/
theorem Canonical.lt_of_lt {m' j' : ℕ} (h : Canonical m j) (h' : Canonical m' j')
    (hlt : j < j') : m * 2 ^ j < m' * 2 ^ j' :=
  h.lt_two_pow.trans_le (Nat.mul_le_mul (h'.full (Nat.zero_lt_of_lt hlt))
    (Nat.pow_le_pow_right two_pos hlt))

theorem Canonical.lt_overflow (h : Canonical m j) (hj : j ≤ topExponent) :
    m * 2 ^ j < overflow := by
  have hpow : 2 ^ (j + 1) ≤ 2 ^ (topExponent + 1) :=
    pow_le_pow_right₀ one_le_two (Nat.succ_le_succ hj)
  rw [overflow]
  exact h.lt_two_pow.trans_le (Nat.mul_le_mul_left _ hpow)

theorem Canonical.overflow_le (h : Canonical m j) (hj : topExponent < j) :
    overflow ≤ m * 2 ^ j := by
  have hpow : 2 ^ (topExponent + 1) ≤ 2 ^ j := pow_le_pow_right₀ one_le_two hj
  rw [overflow]
  exact Nat.mul_le_mul (h.full (Nat.zero_lt_of_lt hj)) hpow

end Range

section Rounds

theorem targetExponent_eq (m : ℕ) (e : ℤ) :
    Format.binary64.targetExponent (totalExponent m e) = max (m.log2 + e - 52) (-1074) := by
  simp only [Format.targetExponent, totalExponent, Format.mantissaBits, Format.minExponent]
  norm_num
  omega

theorem shiftToTargetExponent_of_lt {r : ℕ} {e : ℤ} (hr : r < 2 ^ 53) (he : -1074 ≤ e) :
    shiftToTargetExponent .binary64 r e .exact = (.mk r false false, e) := by
  have hlog : r.log2 ≤ 52 := by
    rcases Nat.eq_zero_or_pos r with rfl | hpos
    · simp
    · exact Nat.le_of_lt_succ ((Nat.log2_lt hpos.ne').mpr hr)
  have hshift : (Format.binary64.targetExponent (totalExponent r e) - e).toNat = 0 := by
    rw [targetExponent_eq]
    omega
  simp only [shiftToTargetExponent, shiftToExponent, hshift]
  simp [HShiftRight.hShiftRight, Nat.repeat, ExtendedMantissa.ofMantissaAndAccuracy]

theorem shiftToTargetExponent_carry {e : ℤ} (he : -1074 ≤ e) :
    shiftToTargetExponent .binary64 (2 ^ 53) e .exact = (.mk (2 ^ 52) false false, e + 1) := by
  have hshift : (Format.binary64.targetExponent (totalExponent (2 ^ 53) e) - e).toNat = 1 := by
    rw [targetExponent_eq, Nat.log2_two_pow]
    omega
  simp only [shiftToTargetExponent, shiftToExponent, hshift]
  rfl

/-- A number with a plus sign in canonical form, with its exact value in units of the least positive
double. -/
def Settled (u : UnpackedFloat) (n : ℕ) : Prop :=
  (n = 0 ∧ u = .zero .positive) ∨
    ∃ (r d : ℕ) (hr : 0 < r), u = .finite .positive r (d - 1074) hr ∧ Canonical r d ∧ r * 2 ^ d = n

/-- How far a mantissa is shifted that has enough bits: until there is room for it, and at least until
the exponent is one that a double can have. -/
theorem exists_shift {m : ℕ} {e : ℤ} (hbits : 52 ≤ m.log2 ∨ e ≤ -1074) (acc : Accuracy) :
    ∃ k d : ℕ, e + k = d - 1074 ∧ (0 < d → 2 ^ 52 * 2 ^ k ≤ m) ∧ m < 2 ^ 53 * 2 ^ k ∧
      shiftToTargetExponent .binary64 m e acc =
        (ExtendedMantissa.ofMantissaAndAccuracy m acc >>> k, (d : ℤ) - 1074) := by
  obtain ⟨t, ht⟩ : ∃ t : ℤ, max (m.log2 + e - 52) (-1074) = t := ⟨_, rfl⟩
  have hexponent : e + ((t - e).toNat : ℤ) = (t + 1074).toNat - 1074 := by omega
  refine ⟨(t - e).toNat, (t + 1074).toNat, hexponent, fun hd => ?_, ?_, ?_⟩
  · have hlog : 52 + (t - e).toNat = m.log2 := by omega
    have hm : m ≠ 0 := by
      rintro rfl
      simp at hlog
    rw [← pow_add, hlog]
    exact Nat.log2_self_le hm
  · rw [← pow_add]
    refine lt_of_lt_of_le Nat.lt_log2_self (Nat.pow_le_pow_right two_pos ?_)
    omega
  · rw [← hexponent, shiftToTargetExponent, targetExponent_eq, ht]
    rfl

/-- What the rounding of a mantissa with enough bits gives. -/
theorem exists_settled {m : ℕ} {e : ℤ} (hbits : 52 ≤ m.log2 ∨ e ≤ -1074) (acc : Accuracy) :
    ∃ k d : ℕ, e + k = d - 1074 ∧ (0 < d → 2 ^ 52 * 2 ^ k ≤ m) ∧ m < 2 ^ 53 * 2 ^ k ∧
      Settled (roundWithAccuracy .binary64 .positive m e acc)
        ((ExtendedMantissa.ofMantissaAndAccuracy m acc >>> k).roundedMantissa * 2 ^ d) := by
  obtain ⟨k, d, hexponent, hfull, hlt, hshift⟩ := exists_shift hbits acc
  refine ⟨k, d, hexponent, hfull, hlt, ?_⟩
  have hmantissa : (ExtendedMantissa.ofMantissaAndAccuracy m acc).mantissa = m := by
    rcases acc with _ | (_ | _ | _) <;> rfl
  have hbounds := roundedMantissa_bounds (ExtendedMantissa.ofMantissaAndAccuracy m acc >>> k)
  rw [mantissa_shiftRight, hmantissa] at hbounds
  have hbelow : m / 2 ^ k < 2 ^ 53 := (Nat.div_lt_iff_lt_mul (Nat.two_pow_pos _)).mpr hlt
  have habove : 0 < d → 2 ^ 52 ≤ m / 2 ^ k := fun hd =>
    (Nat.le_div_iff_mul_le (Nat.two_pow_pos _)).mpr (hfull hd)
  have hleast : -1074 ≤ (d : ℤ) - 1074 := by omega
  rw [roundWithAccuracy, hshift]
  dsimp only
  generalize (ExtendedMantissa.ofMantissaAndAccuracy m acc >>> k).roundedMantissa = r at *
  by_cases hr : r < 2 ^ 53
  · rw [shiftToTargetExponent_of_lt hr hleast]
    rcases Nat.eq_zero_or_pos r with rfl | hpos
    · exact .inl ⟨Nat.zero_mul _, dif_pos rfl⟩
    · exact .inr ⟨r, d, hpos, dif_neg hpos.ne', ⟨hr, fun hd => (habove hd).trans hbounds.1⟩, rfl⟩
  · -- the last bit was carried through all others
    obtain rfl : r = 2 ^ 53 := by omega
    refine .inr ⟨2 ^ 52, d + 1, Nat.two_pow_pos _, ?_, ⟨by decide, fun _ => le_rfl⟩, ?_⟩
    · have hnext : ((d + 1 : ℕ) : ℤ) - 1074 = (d : ℤ) - 1074 + 1 := by omega
      rw [shiftToTargetExponent_carry hleast, hnext]
      exact dif_neg (Nat.two_pow_pos 52).ne'
    · rw [pow_succ]
      ring

theorem four_mul_le_weight (m : ℕ) (acc : Accuracy) :
    4 * m ≤ weight (ExtendedMantissa.ofMantissaAndAccuracy m acc) := by
  rcases acc with _ | (_ | _ | _) <;>
    simp [weight, ExtendedMantissa.ofMantissaAndAccuracy, add_assoc]

/-- A mantissa with enough bits is rounded to no more than a double that its exact value is not above.
Both values are given in a unit that makes them whole. -/
theorem exists_settled_le {m c i s t : ℕ} {e : ℤ} {acc : Accuracy}
    (hbits : 52 ≤ m.log2 ∨ e ≤ -1074) (ht : e + 1074 + s = t) (hc : c < 2 ^ 53)
    (hle : weight (ExtendedMantissa.ofMantissaAndAccuracy m acc) * 2 ^ t ≤
      4 * (c * 2 ^ (i + s))) :
    ∃ n ≤ c * 2 ^ i, Settled (roundWithAccuracy .binary64 .positive m e acc) n := by
  obtain ⟨k, d, hexponent, hfull, -, hsettled⟩ := exists_settled hbits acc
  have hsum : k + t = d + s := by omega
  -- the rounded value has no larger exponent than the bound, for it has all bits in use
  have hdi : d ≤ i := by
    by_contra hlt
    have hmantissa : m * 2 ^ t ≤ c * 2 ^ (i + s) := by
      refine Nat.le_of_mul_le_mul_left (c := 4) ?_ four_pos
      calc 4 * (m * 2 ^ t)
        _ = 4 * m * 2 ^ t := by rw [mul_assoc]
        _ ≤ _ := (Nat.mul_le_mul_right _ (four_mul_le_weight m acc)).trans hle
    have hvalue : 2 ^ 52 * 2 ^ (k + t) ≤ c * 2 ^ (i + s) := by
      calc 2 ^ 52 * 2 ^ (k + t)
        _ = 2 ^ 52 * 2 ^ k * 2 ^ t := by rw [pow_add, mul_assoc]
        _ ≤ m * 2 ^ t := Nat.mul_le_mul_right _ (hfull (by omega))
        _ ≤ c * 2 ^ (i + s) := hmantissa
    have hexponents := exponent_le le_rfl hc hvalue
    omega
  have hweight : weight (ExtendedMantissa.ofMantissaAndAccuracy m acc) ≤
      4 * (c * 2 ^ (i - d) * 2 ^ k) := by
    refine Nat.le_of_mul_le_mul_right (c := 2 ^ t) ?_ (Nat.two_pow_pos _)
    calc weight (ExtendedMantissa.ofMantissaAndAccuracy m acc) * 2 ^ t
      _ ≤ 4 * (c * 2 ^ (i + s)) := hle
      _ = 4 * (c * 2 ^ (i - d) * 2 ^ k) * 2 ^ t := by
        rw [show i + s = i - d + (k + t) by omega]
        ring
  refine ⟨_, ?_, hsettled⟩
  calc _ ≤ c * 2 ^ (i - d) * 2 ^ d := Nat.mul_le_mul_right _ (roundedMantissa_shiftRight_le hweight)
    _ = c * 2 ^ i := by rw [mul_assoc, ← pow_add, Nat.sub_add_cancel hdi]

/-- Nor is it rounded to less than a double that is not above it, whatever was cut off. -/
theorem exists_le_settled {m c i s t : ℕ} {e : ℤ} (hbits : 52 ≤ m.log2 ∨ e ≤ -1074)
    (acc : Accuracy) (ht : e + 1074 + s = t) (hc : c < 2 ^ 53)
    (hle : c * 2 ^ (i + s) ≤ m * 2 ^ t) :
    ∃ n, c * 2 ^ i ≤ n ∧ Settled (roundWithAccuracy .binary64 .positive m e acc) n := by
  obtain ⟨k, d, hexponent, hfull, -, hsettled⟩ := exists_settled hbits acc
  have hsum : k + t = d + s := by omega
  have hrounded : ∀ n, n * 2 ^ k ≤ m →
      n ≤ (ExtendedMantissa.ofMantissaAndAccuracy m acc >>> k).roundedMantissa := fun n hn =>
    le_roundedMantissa_shiftRight ((Nat.mul_le_mul_left 4 hn).trans (four_mul_le_weight m acc))
  refine ⟨_, ?_, hsettled⟩
  rcases Nat.lt_or_ge i d with hid | hdi
  · -- all bits are in use, and the exponent is larger than that of the bound
    calc c * 2 ^ i
      _ ≤ 2 ^ 53 * 2 ^ i := Nat.mul_le_mul_right _ hc.le
      _ = 2 ^ 52 * 2 ^ (i + 1) := by rw [pow_succ]; ring
      _ ≤ 2 ^ 52 * 2 ^ d := Nat.mul_le_mul_left _ (Nat.pow_le_pow_right two_pos hid)
      _ ≤ _ := Nat.mul_le_mul_right _ (hrounded _ (hfull (Nat.zero_lt_of_lt hid)))
  · have hmantissa : c * 2 ^ (i - d) * 2 ^ k ≤ m := by
      refine Nat.le_of_mul_le_mul_right (c := 2 ^ t) ?_ (Nat.two_pow_pos _)
      calc c * 2 ^ (i - d) * 2 ^ k * 2 ^ t
        _ = c * 2 ^ (i + s) := by
          rw [show i + s = i - d + (k + t) by omega]
          ring
        _ ≤ m * 2 ^ t := hle
    calc c * 2 ^ i
      _ = c * 2 ^ (i - d) * 2 ^ d := by rw [mul_assoc, ← pow_add, Nat.sub_add_cancel hdi]
      _ ≤ _ := Nat.mul_le_mul_right _ (hrounded _ hmantissa)

/-- An exact mantissa with enough bits is rounded to as many bits as a double has. -/
theorem settled_roundWithAccuracy {m j : ℕ} (hm : 0 < m) (hbits : 52 ≤ m.log2 ∨ j = 0) :
    Settled (roundWithAccuracy .binary64 .positive m (j - 1074) .exact) (rounded (m * 2 ^ j)) := by
  obtain ⟨k, d, hexponent, hfull, hlt, hsettled⟩ := exists_settled (m := m) (e := (j : ℤ) - 1074)
    (hbits.imp_right fun hj => by omega) .exact
  obtain rfl : d = j + k := by omega
  have hpos : m * 2 ^ j ≠ 0 := (Nat.mul_pos hm (Nat.two_pow_pos _)).ne'
  have hsplit : ∀ n, n * 2 ^ k * 2 ^ j = n * 2 ^ (j + k) := fun n => by rw [pow_add]; ring
  -- the bits shifted out are those that a double has no room for
  have hexcess : excess (m * 2 ^ j) = j + k := by
    have hlog : (m * 2 ^ j).log2 < 53 + (j + k) := by
      rw [Nat.log2_lt hpos, pow_add, ← hsplit]
      exact Nat.mul_lt_mul_of_pos_right hlt (Nat.two_pow_pos _)
    have hlog' : 0 < j + k → 52 + (j + k) ≤ (m * 2 ^ j).log2 := by
      intro hd
      rw [Nat.le_log2 hpos, pow_add, ← hsplit]
      exact Nat.mul_le_mul_right _ (hfull hd)
    rw [excess]
    omega
  rw [rounded, hexcess, nearest_mul_two_pow, nearest]
  exact hsettled

/-- A canonical number that was widened by enough zero bits is kept. -/
theorem Canonical.settled_widened {m j i : ℕ} (h : Canonical m j) (hm : 0 < m) (hi : 52 ≤ i) :
    Settled (roundWithAccuracy .binary64 .positive (m * 2 ^ i) (j - 1074 - i) .exact)
      (m * 2 ^ j) := by
  have hbits : 52 ≤ (m * 2 ^ i).log2 := by
    rw [log2_mul_two_pow hm.ne']
    exact hi.trans (Nat.le_add_left _ _)
  obtain ⟨k, d, hexponent, hfull, hlt, hsettled⟩ :=
    exists_settled (e := (j : ℤ) - 1074 - i) (.inl hbits) .exact
  -- the bits that were added are those that are dropped
  have hle : d ≤ j := by
    by_contra hd
    have hk : k ≤ i := exponent_le le_rfl h.lt (hfull (by omega))
    omega
  have hge : j ≤ d := by
    by_contra hj
    have hpow : 2 ^ (52 + i) < 2 ^ (53 + k) := by
      calc 2 ^ (52 + i)
        _ ≤ m * 2 ^ i := by
          rw [pow_add]
          exact Nat.mul_le_mul_right _ (h.full (by omega))
        _ < 2 ^ (53 + k) := by rwa [pow_add]
    have hk := (Nat.pow_lt_pow_iff_right one_lt_two).mp hpow
    omega
  obtain rfl : d = j := le_antisymm hle hge
  obtain rfl : k = i := by omega
  have hkept : (ExtendedMantissa.ofMantissaAndAccuracy (m * 2 ^ k) .exact >>> k).roundedMantissa =
      m := nearest_mul_two_pow m k 0
  rwa [hkept] at hsettled

theorem targetExponent_eq_excess {m : ℕ} (hm : 0 < m) (j : ℕ) :
    Format.binary64.targetExponent (totalExponent m (j - 1074)) =
      (excess (m * 2 ^ j) : ℤ) - 1074 := by
  rw [targetExponent_eq, excess, log2_mul_two_pow hm.ne']
  omega

/-- Before bits are dropped, the mantissa is widened so that none is missing. -/
theorem round_eq_roundWithAccuracy {m : ℕ} (hm : 0 < m) (s : Sign) (j : ℕ) :
    ∃ m' j' : ℕ, 0 < m' ∧ m' * 2 ^ j' = m * 2 ^ j ∧ (52 ≤ m'.log2 ∨ j' = 0) ∧
      UnpackedFloat.round .binary64 s m (j - 1074) =
        roundWithAccuracy .binary64 s m' (j' - 1074) .exact := by
  obtain ⟨k, hk⟩ : ∃ k, excess (m * 2 ^ j) = k := ⟨_, rfl⟩
  refine ⟨m * 2 ^ (j - k), min j k, Nat.mul_pos hm (Nat.two_pow_pos _), ?_, ?_, ?_⟩
  · rw [mul_assoc, ← pow_add, show j - k + min j k = j by omega]
  · rw [excess, log2_mul_two_pow hm.ne'] at hk
    rw [log2_mul_two_pow hm.ne']
    omega
  · have hwider : ((j : ℤ) - 1074 - (k - 1074)).toNat = j - k := by omega
    have hexponent : (j : ℤ) - 1074 - (j - k : ℕ) = (min j k : ℕ) - 1074 := by omega
    rw [UnpackedFloat.round, targetExponent_eq_excess hm, hk]
    dsimp only [decreaseExponent]
    rw [hwider, hexponent, Nat.shiftLeft_eq]

/-- Any positive mantissa is rounded to as many bits as a double has. -/
theorem settled_round {m : ℕ} (hm : 0 < m) (j : ℕ) :
    Settled (UnpackedFloat.round .binary64 .positive m (j - 1074)) (rounded (m * 2 ^ j)) := by
  obtain ⟨m', j', hm', hvalue, hbits, hround⟩ := round_eq_roundWithAccuracy hm .positive j
  rw [hround, ← hvalue]
  exact settled_roundWithAccuracy hm' hbits

/-- So is any exact value that is not negative. -/
theorem settled_normalize (n j : ℕ) :
    Settled (UnpackedFloat.normalize .binary64 n (j - 1074) .positive) (rounded (n * 2 ^ j)) := by
  rcases Nat.eq_zero_or_pos n with rfl | hn
  · exact .inl ⟨by rw [zero_mul]; rfl, rfl⟩
  · rw [UnpackedFloat.normalize, compare_gt_iff_gt.mpr (Int.natCast_pos.mpr hn),
      Int.toNat_natCast]
    exact settled_round hn j

end Rounds

end DidYouMean.Rounding
