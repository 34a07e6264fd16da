import DidYouMean.Proofs.Score.DoubleSum

/-!
# Operations on doubles

Counts and differences are exact values, rounded.  Of sums and products it is enough to know that
rounding does not carry them past a double that their exact values do not pass.  What is computed from
something that is not a number is not a number either.

## Main statements

- `isNumber_of_op`: a number is only computed from numbers
- `add_le_of_units_le`, `hasPlus_mul_and_mul_le`: what a sum and a product do not pass
- `hasPlus_sub_and_units_sub`, `not_lt_sub`: differences of numbers with a plus sign
- `units_ofNat`: the exact value of a count
-/

namespace DidYouMean

open Float.Model UnpackedFloat Rounding

section Numbers

variable {x y z : Float}

theorem isNumber_iff : x ≤ x ↔ x.toModel.unpack ≠ .notANumber := by
  rw [double_le_iff]
  cases hx : x.toModel.unpack with
  | notANumber => simp [linePlace?]
  | infinity s => cases s <;> simp [linePlace?]
  | zero s => simp [linePlace?]
  | finite s m e hm => cases s <;> simp [linePlace?]

/-- What is computed from something that is not a number is not a number. -/
theorem isNumber_of_op {op : UnpackedFloat → UnpackedFloat → UnpackedFloat}
    (hleft : ∀ v, op .notANumber v = .notANumber) (hright : ∀ u, op u .notANumber = .notANumber)
    (hop : z.toModel.unpack =
      unpack .binary64 (UnpackedFloat.pack .binary64 (op x.toModel.unpack y.toModel.unpack)))
    (hz : z ≤ z) : x ≤ x ∧ y ≤ y := by
  have hnan : unpack .binary64 (UnpackedFloat.pack .binary64 .notANumber) = .notANumber := by
    rw [UnpackedFloat.pack.eq_def, unpack_packedNaN]
  rw [isNumber_iff, hop] at hz
  refine ⟨isNumber_iff.mpr fun hx => hz ?_, isNumber_iff.mpr fun hy => hz ?_⟩
  · rw [hx, hleft, hnan]
  · rw [hy, hright, hnan]

theorem unpack_sub (x y : Float) : (x - y).toModel.unpack = unpack .binary64
    (UnpackedFloat.pack .binary64 (.sub .binary64 x.toModel.unpack y.toModel.unpack)) :=
  rfl

theorem unpack_mul (x y : Float) : (x * y).toModel.unpack = unpack .binary64
    (UnpackedFloat.pack .binary64 (.mul .binary64 x.toModel.unpack y.toModel.unpack)) :=
  rfl

theorem unpack_div (x y : Float) : (x / y).toModel.unpack = unpack .binary64
    (UnpackedFloat.pack .binary64 (.div .binary64 x.toModel.unpack y.toModel.unpack)) :=
  rfl

theorem isNumber_of_add (h : x + y ≤ x + y) : x ≤ x ∧ y ≤ y :=
  isNumber_of_op (fun _ => rfl) (fun u => by cases u <;> rfl) (unpack_add x y) h

theorem isNumber_of_sub (h : x - y ≤ x - y) : x ≤ x ∧ y ≤ y :=
  isNumber_of_op (fun _ => rfl) (fun u => by cases u <;> rfl) (unpack_sub x y) h

theorem isNumber_of_div (h : x / y ≤ x / y) : x ≤ x ∧ y ≤ y :=
  isNumber_of_op (fun _ => rfl) (fun u => by cases u <;> rfl) (unpack_div x y) h

/-- A double is what its model holds, packed. -/
theorem unpack_pack_unpack (x : Float) :
    unpack .binary64 (UnpackedFloat.pack .binary64 x.toModel.unpack) = x.toModel.unpack :=
  congrArg (unpack .binary64) (pack_unpack_of_valid x.toModel.valid)

theorem hasPlus_of_unpack {u : UnpackedFloat} (hu : signOf? u = some .positive)
    (h : x.toModel.unpack = unpack .binary64 (UnpackedFloat.pack .binary64 u)) : HasPlus x := by
  rw [HasPlus, h, signOf?_unpack_pack, hu]

/-- What is rounded to a settled number has its exact value, unless that is too large. -/
theorem hasPlus_and_units_eq {u : UnpackedFloat} {n : ℕ} (hu : Settled u n)
    (h : x.toModel.unpack = unpack .binary64 (UnpackedFloat.pack .binary64 u)) :
    HasPlus x ∧ units x = min n overflow :=
  ⟨hasPlus_of_unpack (signOf?_of_settled hu) h, by rw [units, h, magnitude_of_settled hu]⟩

theorem hasPlus_and_units_le {u : UnpackedFloat} {n bound : ℕ} (hu : Settled u n)
    (hn : n ≤ bound)
    (h : x.toModel.unpack = unpack .binary64 (UnpackedFloat.pack .binary64 u)) :
    HasPlus x ∧ units x ≤ bound := by
  obtain ⟨hplus, hunits⟩ := hasPlus_and_units_eq hu h
  exact ⟨hplus, hunits ▸ (min_le_left _ _).trans hn⟩

theorem HasPlus.units_le_overflow (hx : HasPlus x) : units x ≤ overflow := by
  rw [← rounded_units hx]
  exact min_le_right _ _

/-- What a number with a plus sign can be, with its exact value. -/
theorem HasPlus.unpack_units_cases (hx : HasPlus x) :
    (x.toModel.unpack = .zero .positive ∧ units x = 0) ∨
    (x.toModel.unpack = .infinity .positive ∧ units x = overflow) ∨
    ∃ (m j : ℕ) (hm : 0 < m), Canonical m j ∧
      x.toModel.unpack = .finite .positive m (j - 1074) hm ∧ units x = m * 2 ^ j ∧
        units x < overflow := by
  obtain h | h | ⟨m, j, hm, hcan, hj, h⟩ := hx.unpack_cases
  · exact .inl ⟨h, by rw [units, h, magnitude]⟩
  · exact .inr (.inl ⟨h, by rw [units, h, magnitude]⟩)
  · have hunits : units x = m * 2 ^ j := by rw [units, h, magnitude_finite]
    exact .inr (.inr ⟨m, j, hm, hcan, h, hunits, hunits ▸ hcan.lt_overflow hj⟩)

theorem HasPlus.unpack_of_units_eq_zero (hx : HasPlus x) (h : units x = 0) :
    x.toModel.unpack = .zero .positive := by
  obtain ⟨hxu, -⟩ | ⟨-, hxe⟩ | ⟨m, j, hm, -, -, hxe, -⟩ := hx.unpack_units_cases
  · exact hxu
  · exact absurd (hxe.symm.trans h) overflow_pos.ne'
  · exact absurd (hxe.symm.trans h) (Nat.mul_pos hm (Nat.two_pow_pos _)).ne'

theorem HasPlus.unpack_of_units_eq_overflow (hx : HasPlus x) (h : units x = overflow) :
    x.toModel.unpack = .infinity .positive := by
  obtain ⟨-, hxe⟩ | ⟨hxu, -⟩ | ⟨m, j, hm, -, -, -, hlt⟩ := hx.unpack_units_cases
  · exact absurd (hxe.symm.trans h) overflow_pos.ne
  · exact hxu
  · exact absurd h hlt.ne

end Numbers

section Constants

theorem hasPlus_one : HasPlus 1.0 := rfl

theorem units_one : units 1.0 = 2 ^ 1074 := by
  have hunpack : (1.0 : Float).toModel.unpack =
      .finite .positive (2 ^ 52) ((1022 : ℕ) - 1074) (Nat.two_pow_pos _) := rfl
  rw [units, hunpack, magnitude_finite, ← pow_add]

theorem units_half : units 0.5 = 2 ^ 1073 := by
  have hunpack : (0.5 : Float).toModel.unpack =
      .finite .positive (2 ^ 52) ((1021 : ℕ) - 1074) (Nat.two_pow_pos _) := rfl
  rw [units, hunpack, magnitude_finite, ← pow_add]

theorem units_one_lt_overflow : units 1.0 < overflow := by
  rw [units_one, overflow, ← pow_add, Nat.pow_lt_pow_iff_right one_lt_two, topExponent]
  decide

end Constants

section Sums

variable {x y z x' y' : Float}

/-- A sum is rounded to no more than a number that its exact value is not above. -/
theorem add_le_of_units_le (hx : HasPlus x) (hy : HasPlus y) (hz : HasPlus z)
    (h : units x + units y ≤ units z) : x + y ≤ z := by
  rw [double_le_iff_units_le (hx.add hy) hz, units_add hx hy, ← rounded_units hz]
  exact min_le_min_right _ (rounded_mono h)

theorem double_le_add (hx : HasPlus x) (hy : HasPlus y) : x ≤ x + y := by
  rw [double_le_iff_units_le hx (hx.add hy), units_add hx hy]
  calc units x
    _ = min (rounded (units x)) overflow := (rounded_units hx).symm
    _ ≤ min (rounded (units x + units y)) overflow :=
      min_le_min_right _ (rounded_mono (Nat.le_add_right _ _))

/-- Sums grow with both parts. -/
theorem double_add_le_add (hx : HasPlus x) (hx' : HasPlus x') (hy : HasPlus y)
    (hy' : HasPlus y') (hxx : x ≤ x') (hyy : y ≤ y') : x + y ≤ x' + y' := by
  rw [double_add_comm x', double_add_comm x]
  refine double_le_trans (double_add_le_add_right hy hy' hx hyy) ?_
  rw [double_add_comm y', double_add_comm y']
  exact double_add_le_add_right hx hx' hy' hxx

end Sums

section Differences

variable {x y : Float}

/-- Mantissas are subtracted at the smaller exponent, and only their difference is rounded. -/
theorem sub_finite {m j m' j' : ℕ} (hm : 0 < m) (hm' : 0 < m') :
    UnpackedFloat.sub .binary64 (.finite .positive m (j - 1074) hm)
        (.finite .positive m' (j' - 1074) hm') =
      .normalize .binary64
        ((m * 2 ^ (j - min j j') : ℕ) - (m' * 2 ^ (j' - min j j') : ℕ) : ℤ)
        ((min j j' : ℕ) - 1074) .positive := by
  have hmin : min ((j : ℤ) - 1074) (j' - 1074) = (min j j' : ℕ) - 1074 := by omega
  have hshift : ∀ i : ℕ, ((i : ℤ) - 1074 - ((min j j' : ℕ) - 1074)).toNat = i - min j j' := by omega
  dsimp only [UnpackedFloat.sub, decreaseExponent, Sign.apply]
  rw [hmin, hshift, hshift, Nat.shiftLeft_eq, Nat.shiftLeft_eq]

/-- A number is kept when nothing is taken away. -/
theorem double_sub_zero (hx : HasPlus x) : x - 0.0 = x := by
  have hzero : (0.0 : Float).toModel.unpack = .zero .positive := rfl
  have hsub : UnpackedFloat.sub .binary64 x.toModel.unpack (.zero .positive) =
      x.toModel.unpack := by
    obtain ⟨hxu, -⟩ | ⟨hxu, -⟩ | ⟨m, j, hm, -, hxu, -⟩ := hx.unpack_units_cases <;>
      rw [hxu] <;> rfl
  have hunpack := unpack_sub x 0.0
  rw [hzero, hsub, unpack_pack_unpack] at hunpack
  have hplus : HasPlus (x - 0.0) := by rwa [HasPlus, hunpack]
  exact hplus.eq_of_linePlace_eq hx (by rw [hunpack])

/-- The difference of two numbers with a plus sign is their exact difference, rounded, if it is not
negative. -/
theorem hasPlus_sub_and_units_sub (hx : HasPlus x) (hy : HasPlus y) (hfinite : units x < overflow)
    (hle : y ≤ x) :
    HasPlus (x - y) ∧ units (x - y) = min (rounded (units x - units y)) overflow := by
  rw [double_le_iff_units_le hy hx] at hle
  obtain ⟨hyu, hye⟩ | ⟨-, hye⟩ | ⟨m', j', hm', -, hyu, hye, -⟩ := hy.unpack_units_cases
  · obtain rfl : y = 0.0 := hy.eq_of_linePlace_eq hasPlus_zero (by rw [hyu]; rfl)
    rw [double_sub_zero hx, hye, Nat.sub_zero, rounded_units hx]
    exact ⟨hx, rfl⟩
  · rw [hye] at hle
    exact absurd hfinite (Nat.not_lt_of_le hle)
  · obtain ⟨-, hxe⟩ | ⟨-, hxe⟩ | ⟨m, j, hm, -, hxu, hxe, -⟩ := hx.unpack_units_cases
    · rw [hxe, hye] at hle
      exact absurd hle (Nat.not_le_of_lt (Nat.mul_pos hm' (Nat.two_pow_pos _)))
    · exact absurd hxe hfinite.ne
    · rw [hxe, hye, ← shifted_mul_two_pow m j j', ← shifted_mul_two_pow m' j' j,
        min_comm j' j] at hle
      have hmantissas := Nat.le_of_mul_le_mul_right hle (Nat.two_pow_pos _)
      have hsettled := settled_normalize
        (m * 2 ^ (j - min j j') - m' * 2 ^ (j' - min j j')) (min j j')
      rw [Nat.sub_mul, shifted_mul_two_pow, min_comm j j', shifted_mul_two_pow, ← hxe, ← hye,
        min_comm j' j, Nat.cast_sub hmantissas] at hsettled
      have hunpack := unpack_sub x y
      rw [hxu, hyu, sub_finite hm hm'] at hunpack
      exact hasPlus_and_units_eq hsettled hunpack

/-- Where more is taken away than there is, nothing with a plus sign is left. -/
theorem le_of_hasPlus_sub (hx : HasPlus x) (hy : HasPlus y) (hsub : HasPlus (x - y)) : y ≤ x := by
  rw [double_le_iff_units_le hy hx]
  rw [HasPlus, unpack_sub, signOf?_unpack_pack] at hsub
  by_contra hlt
  obtain ⟨hyu, hye⟩ | ⟨hyu, -⟩ | ⟨m', j', hm', -, hyu, hye, -⟩ := hy.unpack_units_cases
  · exact hlt (hye ▸ Nat.zero_le _)
  · obtain ⟨hxu, -⟩ | ⟨hxu, -⟩ | ⟨m, j, hm, -, hxu, -⟩ := hx.unpack_units_cases <;>
      rw [hxu, hyu] at hsub <;> cases hsub
  · obtain ⟨hxu, -⟩ | ⟨-, hxe⟩ | ⟨m, j, hm, -, hxu, hxe, -⟩ := hx.unpack_units_cases
    · rw [hxu, hyu] at hsub
      cases hsub
    · exact hlt (hxe ▸ hy.units_le_overflow)
    · rw [hxe, hye, ← shifted_mul_two_pow m j j', ← shifted_mul_two_pow m' j' j,
        min_comm j' j] at hlt
      have hmantissas : m * 2 ^ (j - min j j') < m' * 2 ^ (j' - min j j') :=
        Nat.lt_of_not_le fun h => hlt (Nat.mul_le_mul_right _ h)
      have hnegative :
          ((m * 2 ^ (j - min j j') : ℕ) - (m' * 2 ^ (j' - min j j') : ℕ) : ℤ) < 0 := by
        omega
      rw [hxu, hyu, sub_finite hm hm', UnpackedFloat.normalize, compare_lt_iff_lt.mpr hnegative,
        signOf?_round] at hsub
      cases hsub

theorem HasPlus.pos_iff (hx : HasPlus x) : 0.0 < x ↔ 0 < units x := by
  have hzero : units 0.0 = 0 := rfl
  rw [← not_iff_not, double_not_lt_iff hasPlus_zero.isNumber hx.isNumber,
    double_le_iff_units_le hx hasPlus_zero, hzero, Nat.not_lt]

theorem HasPlus.nonneg (hx : HasPlus x) : 0.0 ≤ x := by
  rw [double_le_iff_units_le hasPlus_zero hx, show units 0.0 = 0 by rfl]
  exact Nat.zero_le _

/-- What is taken away does not make a number larger. -/
theorem not_lt_sub (hx : HasPlus x) (hy : HasPlus y) : ¬x < x - y := by
  intro hlt
  have hsub : HasPlus (x - y) := .of_pos (double_lt_of_le_of_lt hx.nonneg hlt)
  have hunits := units_lt_of_lt hx hsub hlt
  have hfinite := hunits.trans_le hsub.units_le_overflow
  have hexact := (hasPlus_sub_and_units_sub hx hy hfinite (le_of_hasPlus_sub hx hy hsub)).2
  have hle : units (x - y) ≤ units x := by
    calc units (x - y)
      _ = min (rounded (units x - units y)) overflow := hexact
      _ ≤ min (rounded (units x)) overflow := min_le_min_right _ (rounded_mono (Nat.sub_le _ _))
      _ = units x := rounded_units hx
  exact absurd hunits (Nat.not_lt_of_le hle)

/-- What is missing to one is exact for a number that is at least one half. -/
theorem units_one_sub_of_half_le (hx : HasPlus x) (hle : x ≤ 1.0) (hhalf : 0.5 ≤ x) :
    units (1.0 - x) + units x = units 1.0 := by
  have hunits := (hasPlus_sub_and_units_sub hasPlus_one hx units_one_lt_overflow hle).2
  obtain ⟨i, hi, hi'⟩ : ∃ i, 1074 = 53 + i ∧ 1073 = 52 + i := ⟨1021, rfl, rfl⟩
  have hone : units 1.0 = 2 ^ 53 * 2 ^ i := by rw [units_one, hi, pow_add]
  have hhalfunits : units 0.5 = 2 ^ 52 * 2 ^ i := by rw [units_half, hi', pow_add]
  rw [double_le_iff_units_le hx hasPlus_one] at hle
  rw [double_le_iff_units_le (by rfl) hx] at hhalf
  -- at least one half, the number is a multiple of the last bit of one half
  obtain ⟨n, hn, hxe⟩ : ∃ n, 0 < n ∧ units x = n * 2 ^ i := by
    obtain ⟨-, hxe⟩ | ⟨-, hxe⟩ | ⟨m, j, hm, hcan, -, hxe, -⟩ := hx.unpack_units_cases
    · rw [hxe, hhalfunits] at hhalf
      exact absurd hhalf (Nat.not_le_of_lt (Nat.mul_pos (Nat.two_pow_pos _) (Nat.two_pow_pos _)))
    · rw [hxe] at hle
      exact absurd hle (Nat.not_le_of_lt units_one_lt_overflow)
    · rw [hhalfunits, hxe] at hhalf
      obtain ⟨k, rfl⟩ := Nat.exists_eq_add_of_le (exponent_le le_rfl hcan.lt hhalf)
      exact ⟨m * 2 ^ k, Nat.mul_pos hm (Nat.two_pow_pos _), by rw [hxe, pow_add]; ring⟩
  have hexact : rounded (units 1.0 - units x) = units 1.0 - units x := by
    rw [hone, hxe, ← Nat.sub_mul, rounded_mul_two_pow (Nat.sub_lt (Nat.two_pow_pos _) hn)]
  have hfinite : units 1.0 - units x ≤ overflow :=
    (Nat.sub_le _ _).trans hasPlus_one.units_le_overflow
  rw [hunits, hexact, min_eq_left hfinite, Nat.sub_add_cancel hle]

end Differences

section Products

variable {x y z : Float}

/-- A product keeps the plus sign, unless it is undefined. -/
theorem HasPlus.mul (hx : HasPlus x) (hy : HasPlus y) (h : x * y ≤ x * y) : HasPlus (x * y) := by
  have hunpack := unpack_mul x y
  obtain ⟨hxu, -⟩ | ⟨hxu, -⟩ | ⟨m, j, hm, -, hxu, -⟩ := hx.unpack_units_cases <;>
    obtain ⟨hyu, -⟩ | ⟨hyu, -⟩ | ⟨m', j', hm', -, hyu, -⟩ := hy.unpack_units_cases <;>
      rw [hxu, hyu] at hunpack
  any_goals exact hasPlus_of_unpack rfl hunpack
  · exact absurd hunpack (isNumber_iff.mp h)
  · exact absurd hunpack (isNumber_iff.mp h)
  · refine hasPlus_of_unpack ?_ hunpack
    dsimp only [UnpackedFloat.mul, roundWithAccuracy]
    split_ifs <;> rfl

/-- The product of two mantissas has enough bits, and it is rounded to no more than a double that its
exact value is not above. -/
theorem exists_settled_mul {m j m' j' c i : ℕ} (hm : 0 < m) (hm' : 0 < m') (hcan : Canonical m j)
    (hcan' : Canonical m' j') (hc : c < 2 ^ 53)
    (hle : m * 2 ^ j * (m' * 2 ^ j') ≤ c * 2 ^ (i + 1074)) :
    ∃ n ≤ c * 2 ^ i, Settled (.mul .binary64 (.finite .positive m (j - 1074) hm)
      (.finite .positive m' (j' - 1074) hm')) n := by
  have hbits : 52 ≤ (m * m').log2 ∨ (j : ℤ) - 1074 + (j' - 1074) ≤ -1074 := by
    by_cases hsmall : j + j' ≤ 1074
    · exact .inr (by omega)
    · have hfull : 2 ^ 52 ≤ m * m' := by
        rcases Nat.eq_zero_or_pos j with rfl | hj
        · exact (hcan'.full (by omega)).trans (Nat.le_mul_of_pos_left _ hm)
        · exact (hcan.full hj).trans (Nat.le_mul_of_pos_right _ hm')
      exact .inl ((Nat.le_log2 (Nat.mul_pos hm hm').ne').mpr hfull)
  have hunit : (j : ℤ) - 1074 + (j' - 1074) + 1074 + (1074 : ℕ) = (j + j' : ℕ) := by omega
  refine exists_settled_le hbits hunit hc ?_
  calc weight (ExtendedMantissa.ofMantissaAndAccuracy (m * m') .exact) * 2 ^ (j + j')
    _ = 4 * (m * m') * 2 ^ (j + j') := rfl
    _ = 4 * (m * 2 ^ j * (m' * 2 ^ j')) := by rw [pow_add]; ring
    _ ≤ 4 * (c * 2 ^ (i + 1074)) := Nat.mul_le_mul_left 4 hle

/-- A product is rounded to no more than a number that its exact value is not above. -/
theorem hasPlus_mul_and_mul_le (hx : HasPlus x) (hy : HasPlus y) (hz : HasPlus z)
    (hfx : units x < overflow) (hfy : units y < overflow) (hfz : units z < overflow)
    (hle : units x * units y ≤ units z * units 1.0) : HasPlus (x * y) ∧ x * y ≤ z := by
  obtain ⟨c, i, hc, hze⟩ : ∃ c i, c < 2 ^ 53 ∧ units z = c * 2 ^ i := by
    obtain ⟨-, hze⟩ | ⟨-, hze⟩ | ⟨m, j, -, hcan, -, hze, -⟩ := hz.unpack_units_cases
    · exact ⟨0, 0, Nat.two_pow_pos _, hze⟩
    · exact absurd hze hfz.ne
    · exact ⟨m, j, hcan.lt, hze⟩
  obtain ⟨n, hn, hsettled⟩ : ∃ n ≤ c * 2 ^ i,
      Settled (.mul .binary64 x.toModel.unpack y.toModel.unpack) n := by
    rw [hze, units_one, mul_assoc, ← pow_add] at hle
    obtain ⟨hxu, -⟩ | ⟨-, hxe⟩ | ⟨m, j, hm, hcan, hxu, hxe, -⟩ := hx.unpack_units_cases
    · obtain ⟨hyu, -⟩ | ⟨-, hye⟩ | ⟨m', j', hm', -, hyu, -⟩ := hy.unpack_units_cases
      · exact ⟨0, Nat.zero_le _, .inl ⟨rfl, by rw [hxu, hyu]; rfl⟩⟩
      · exact absurd hye hfy.ne
      · exact ⟨0, Nat.zero_le _, .inl ⟨rfl, by rw [hxu, hyu]; rfl⟩⟩
    · exact absurd hxe hfx.ne
    · obtain ⟨hyu, -⟩ | ⟨-, hye⟩ | ⟨m', j', hm', hcan', hyu, hye, -⟩ := hy.unpack_units_cases
      · exact ⟨0, Nat.zero_le _, .inl ⟨rfl, by rw [hxu, hyu]; rfl⟩⟩
      · exact absurd hye hfy.ne
      · rw [hxe, hye] at hle
        rw [hxu, hyu]
        exact exists_settled_mul hm hm' hcan hcan' hc hle
  obtain ⟨hplus, hunits⟩ := hasPlus_and_units_le hsettled hn (unpack_mul x y)
  exact ⟨hplus, (double_le_iff_units_le hplus hz).mpr (hze ▸ hunits)⟩

/-- A number is kept when it is multiplied by one. -/
theorem units_mul_one (hx : HasPlus x) : HasPlus (x * 1.0) ∧ units (x * 1.0) = units x := by
  have hunpack := unpack_mul x 1.0
  have hone : (1.0 : Float).toModel.unpack =
      .finite .positive (2 ^ 52) (-52) (Nat.two_pow_pos _) := rfl
  rw [hone] at hunpack
  obtain ⟨hxu, hxe⟩ | ⟨hxu, hxe⟩ | ⟨m, j, hm, hcan, hxu, hxe, -⟩ := hx.unpack_units_cases
  · rw [hxu] at hunpack
    exact ⟨hasPlus_of_unpack rfl hunpack, by rw [hxe, units, hunpack]; rfl⟩
  · rw [hxu] at hunpack
    exact ⟨hasPlus_of_unpack rfl hunpack, by rw [hxe, units, hunpack]; rfl⟩
  · have hmul : UnpackedFloat.mul .binary64 x.toModel.unpack
        (.finite .positive (2 ^ 52) (-52) (Nat.two_pow_pos _)) =
        roundWithAccuracy .binary64 .positive (m * 2 ^ 52) (j - 1074 - (52 : ℕ)) .exact := by
      rw [hxu]
      rfl
    rw [hmul] at hunpack
    rw [← min_eq_left hx.units_le_overflow, hxe]
    exact hasPlus_and_units_eq (hcan.settled_widened hm le_rfl) hunpack

end Products

section Counts

/-- A count that a machine word has room for is one of its mantissas. -/
theorem units_toFloat {n : ℕ} (h : n < 2 ^ 53) : HasPlus n.toUInt64.toFloat ∧
    units n.toUInt64.toFloat = min (rounded (n * 2 ^ 1074)) overflow := by
  have htoNat : n.toUInt64.toNat = n := by
    rw [Nat.toUInt64_eq, UInt64.toNat_ofNat', Nat.mod_eq_of_lt (h.trans (by decide))]
  have hunpack : n.toUInt64.toFloat.toModel.unpack = unpack .binary64 (UnpackedFloat.pack .binary64
      (.normalize .binary64 n.toUInt64.toNat ((1074 : ℕ) - 1074) .positive)) :=
    rfl
  rw [htoNat] at hunpack
  exact hasPlus_and_units_eq (settled_normalize n 1074) hunpack

/-- A count with more bits than a double has is widened, and then rounded. -/
theorem settled_ofScientific {n : ℕ} (hn : 0 < n) :
    Settled (UnpackedFloat.ofScientific .binary64 n 0) (rounded (n * 2 ^ 1074)) := by
  obtain ⟨i, hi⟩ : ∃ i, 53 + i = 1074 := ⟨1021, rfl⟩
  have hround : UnpackedFloat.ofScientific .binary64 n 0 =
      roundWithAccuracy .binary64 .positive (n * 2 ^ 53) (i - 1074) .exact := by
    have hexponent : (i : ℤ) - 1074 = -53 := by omega
    have hsmallest : ¬(0 : ℤ) < -(2 ^ Format.binary64.exponentBits + (n.log2 : ℤ)) := by
      have hbits : (0 : ℤ) ≤ 2 ^ Format.binary64.exponentBits := by positivity
      omega
    rw [hexponent, UnpackedFloat.ofScientific, dif_neg hn.ne', if_neg (by decide),
      if_neg hsmallest, if_pos le_rfl]
    dsimp only [UnpackedFloat.mul]
    rw [Nat.shiftLeft_eq, Int.toNat_zero, pow_zero, mul_one]
    rfl
  have hbits : 52 ≤ (n * 2 ^ 53).log2 := by
    rw [log2_mul_two_pow hn.ne']
    omega
  have hsettled := settled_roundWithAccuracy (j := i) (Nat.mul_pos hn (Nat.two_pow_pos 53))
    (.inl hbits)
  rw [mul_assoc, ← pow_add, hi] at hsettled
  rwa [hround]

/-- A count is its exact value, rounded. -/
theorem units_ofNat (n : ℕ) : HasPlus (Float.ofNat n) ∧
    units (Float.ofNat n) = min (rounded (n * 2 ^ 1074)) overflow := by
  change HasPlus (Float.ofScientific n false 0) ∧ units (Float.ofScientific n false 0) = _
  by_cases hsmall : n < 2 ^ 53
  · obtain ⟨hplus, hunits⟩ := units_toFloat hsmall
    rw [Float.ofScientific, dif_pos ⟨hsmall, by decide⟩, ← hunits]
    exact units_mul_one hplus
  · have hunpack : (Float.ofModel (Float.Model.ofScientific n (Int.ofNat 0))).toModel.unpack =
        unpack .binary64 (UnpackedFloat.pack .binary64 (.ofScientific .binary64 n 0)) :=
      rfl
    rw [Float.ofScientific, dif_neg fun h => hsmall h.1]
    exact hasPlus_and_units_eq (settled_ofScientific (by omega)) hunpack

/-- Counts keep their order. -/
theorem ofNat_le_ofNat {a b : ℕ} (h : a ≤ b) : Float.ofNat a ≤ Float.ofNat b := by
  obtain ⟨hplusa, hunitsa⟩ := units_ofNat a
  obtain ⟨hplusb, hunitsb⟩ := units_ofNat b
  rw [double_le_iff_units_le hplusa hplusb, hunitsa, hunitsb]
  exact min_le_min_right _ (rounded_mono (Nat.mul_le_mul_right _ h))

end Counts

end DidYouMean
