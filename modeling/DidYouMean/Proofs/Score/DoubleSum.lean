import DidYouMean.Proofs.Score.Double
import DidYouMean.Proofs.Score.DoubleSign
import DidYouMean.Proofs.Score.Rounding

/-!
# Sums of doubles

The sum of two numbers with a plus sign is their exact sum, rounded.  Rounding keeps the order of exact
values, and so do sums.

## Main definitions

- `units`: the exact value of a double, in units of the least positive one

## Main statements

- `double_le_iff_units_le`: numbers with a plus sign compare as their exact values do
- `units_add`: the exact value of a sum
- `double_add_le_add_right`: adding the same number to both sides keeps `≤`
-/

namespace DidYouMean

open Float.Model UnpackedFloat Rounding

section Magnitude

/-- The exact value of a number in units of the least positive double.  Infinity is the least value
that is too large. -/
def magnitude : UnpackedFloat → ℕ
  | .notANumber => overflow
  | .infinity _ => overflow
  | .zero _ => 0
  | .finite _ m e _ => m * 2 ^ (e + 1074).toNat

theorem magnitude_finite (s : Sign) (m j : ℕ) (hm : 0 < m) :
    magnitude (.finite s m (j - 1074) hm) = m * 2 ^ j := by
  rw [magnitude, show ((j : ℤ) - 1074 + 1074).toNat = j by omega]

end Magnitude

section Packing

theorem unpack_packInfinity (s : Sign) :
    unpack .binary64 (packedInfinity .binary64 s) = .infinity s := by
  cases s <;> rfl

theorem toNat_ofNat_of_lt {w n : ℕ} (h : n < 2 ^ w) : (BitVec.ofNat w n).toNat = n := by
  rw [BitVec.toNat_ofNat, Nat.mod_eq_of_lt h]

/-- The leading bit of a mantissa is not stored, and it is put back. -/
theorem toNat_one_append (v : BitVec 52) : (1#1 ++ v).toNat = 2 ^ 52 + v.toNat := by
  rw [BitVec.toNat_append, Nat.shiftLeft_eq, mul_comm, ← Nat.two_pow_add_eq_or_of_lt v.isLt]
  rfl

theorem unpack_packComponents_normal {m j : ℕ} (hm : 0 < m) (h : Canonical m j)
    (hfull : 2 ^ 52 ≤ m) (hj : j ≤ topExponent) :
    unpack .binary64 (packComponents .binary64 .positive (BitVec.ofNat 11 (j + 1))
      (BitVec.ofNat 52 m)) = .finite .positive m (j - 1074) hm := by
  have hsmall : j + 1 < 2 ^ 11 - 1 := by rw [topExponent] at hj; omega
  have hexponent : (BitVec.ofNat 11 (j + 1)).toNat = j + 1 := toNat_ofNat_of_lt (by omega)
  have hones : BitVec.ofNat 11 (j + 1) ≠ -1#11 := by
    intro heq
    rw [heq] at hexponent
    exact hsmall.ne' hexponent
  have hzero : BitVec.ofNat 11 (j + 1) ≠ 0#11 := by
    intro heq
    rw [heq] at hexponent
    exact (Nat.succ_ne_zero j).symm hexponent
  rw [UnpackedFloat.unpack]
  simp only [unpackExponent_packComponents, unpackMantissa_packComponents,
    unpackSign_packComponents, Sign.ofBitVec_toBitVec]
  rw [if_neg hones, if_neg hzero]
  have hmantissa : (1#1 ++ BitVec.ofNat 52 m).toNat = m := by
    have hlt := h.lt
    rw [toNat_one_append, BitVec.toNat_ofNat]
    omega
  simp only [hexponent, hmantissa, Format.exponentBias]
  norm_num
  omega

theorem unpack_packComponents_subnormal {m : ℕ} (hm : 0 < m) (hlt : m < 2 ^ 52) :
    unpack .binary64 (packComponents .binary64 .positive 0#11 (BitVec.ofNat 52 m)) =
      .finite .positive m (-1074) hm := by
  have hmantissa : (BitVec.ofNat 52 m).toNat = m := toNat_ofNat_of_lt hlt
  have hzero : BitVec.ofNat 52 m ≠ 0#52 := by
    intro heq
    rw [heq] at hmantissa
    exact hm.ne hmantissa
  rw [UnpackedFloat.unpack]
  simp only [unpackExponent_packComponents, unpackMantissa_packComponents,
    unpackSign_packComponents, Sign.ofBitVec_toBitVec]
  rw [if_neg (by decide), if_pos trivial, dif_neg hzero]
  simp only [hmantissa, Format.exponentBias]
  norm_num

/-- A canonical number is kept when it is packed, unless it is too large. -/
theorem unpack_pack {m j : ℕ} (hm : 0 < m) (h : Canonical m j) :
    unpack .binary64 (UnpackedFloat.pack .binary64 (.finite .positive m (j - 1074) hm)) =
      if j ≤ topExponent then .finite .positive m (j - 1074) hm else .infinity .positive := by
  have hbiased : ((j : ℤ) - 1074 + (Format.binary64.exponentBias : ℤ) +
      (Format.binary64.mantissaBitsWithoutImplicit : ℤ)).toNat = j + 1 := by
    simp only [Format.exponentBias]
    norm_num
    omega
  have hlarge : 2 ^ 11 ≤ j + 1 + 1 ↔ ¬j ≤ topExponent := by
    rw [topExponent]
    omega
  rw [UnpackedFloat.pack.eq_def]
  dsimp only
  rw [hbiased, show Format.binary64.mantissaBits = 53 from rfl]
  by_cases hj : j ≤ topExponent
  · rw [if_neg (fun hle => hlarge.mp hle hj), if_pos hj]
    by_cases hfull : 2 ^ 52 ≤ m
    · have hlog : m.log2 = 52 := (Nat.log2_eq_iff hm.ne').mpr ⟨hfull, h.lt⟩
      rw [hlog, if_pos rfl]
      exact unpack_packComponents_normal hm h hfull hj
    · have hlog : m.log2 < 52 := (Nat.log2_lt hm.ne').mpr (Nat.lt_of_not_le hfull)
      obtain rfl : j = 0 := Nat.eq_zero_of_not_pos fun hj => hfull (h.full hj)
      rw [if_neg (Nat.ne_of_lt (Nat.succ_lt_succ hlog))]
      exact unpack_packComponents_subnormal hm (Nat.lt_of_not_le hfull)
  · rw [if_pos (hlarge.mpr hj), if_neg hj]
    exact unpack_packInfinity _

/-- What is packed is the exact value, unless it is too large. -/
theorem magnitude_unpack_pack {m j : ℕ} (hm : 0 < m) (h : Canonical m j) :
    magnitude (unpack .binary64 (UnpackedFloat.pack .binary64
      (.finite .positive m (j - 1074) hm))) = min (m * 2 ^ j) overflow := by
  rw [unpack_pack hm h]
  by_cases hj : j ≤ topExponent
  · rw [if_pos hj, min_eq_left (h.lt_overflow hj).le, magnitude_finite]
  · rw [if_neg hj, min_eq_right (h.overflow_le (Nat.lt_of_not_le hj)), magnitude]

/-- What rounding gives is packed as its exact value, unless that is too large. -/
theorem magnitude_of_settled {u : UnpackedFloat} {n : ℕ} (h : Settled u n) :
    magnitude (unpack .binary64 (UnpackedFloat.pack .binary64 u)) = min n overflow := by
  obtain ⟨rfl, rfl⟩ | ⟨r, d, hr, rfl, hcan, rfl⟩ := h
  · rw [Nat.zero_min]
    rfl
  · exact magnitude_unpack_pack hr hcan

theorem signOf?_of_settled {u : UnpackedFloat} {n : ℕ} (h : Settled u n) :
    signOf? u = some .positive := by
  obtain ⟨-, rfl⟩ | ⟨r, d, hr, rfl, -, -⟩ := h <;> rfl

/-- The finite doubles are canonical. -/
theorem canonical_of_unpack {b : BitVec Format.binary64.numBits} {s : Sign} {m : ℕ} {e : ℤ}
    {hm : 0 < m} (h : unpack .binary64 b = .finite s m e hm) :
    ∃ j : ℕ, e = j - 1074 ∧ j ≤ topExponent ∧ Canonical m j := by
  rw [UnpackedFloat.unpack] at h
  simp only [Format.exponentBias] at h
  split_ifs at h with hones hzero hexponent hmantissa
  · injection h with _ hm he
    refine ⟨0, ?_, Nat.zero_le _, ⟨?_, fun hj => absurd hj (lt_irrefl _)⟩⟩
    · rw [← he, hexponent]
      norm_num
    · rw [← hm]
      exact (BitVec.isLt _).trans (by norm_num)
  · injection h with _ hm he
    have hpos : (unpackExponent b).toNat ≠ 0 := fun hzero => hexponent (BitVec.eq_of_toNat_eq hzero)
    have hless : (unpackExponent b).toNat ≠ 2 ^ 11 - 1 :=
      fun hall => hones (BitVec.eq_of_toNat_eq hall)
    have hbound : (unpackExponent b).toNat < 2 ^ 11 := (unpackExponent b).isLt
    refine ⟨(unpackExponent b).toNat - 1, ?_, ?_, ⟨?_, fun _ => ?_⟩⟩
    · norm_num at he
      omega
    · rw [topExponent]
      omega
    · rw [← hm]
      exact BitVec.isLt _
    · rw [← hm, toNat_one_append]
      exact Nat.le_add_right _ _

end Packing

section Sums

variable {x y : Float}

/-- The exact value of a double, in units of the least positive double. -/
def units (x : Float) : ℕ := magnitude x.toModel.unpack

/-- What a number with a plus sign can be. -/
theorem HasPlus.unpack_cases (hx : HasPlus x) : x.toModel.unpack = .zero .positive ∨
    x.toModel.unpack = .infinity .positive ∨ ∃ (m j : ℕ) (hm : 0 < m), Canonical m j ∧
      j ≤ topExponent ∧ x.toModel.unpack = .finite .positive m (j - 1074) hm := by
  rw [HasPlus] at hx
  cases hunpack : x.toModel.unpack with
  | notANumber =>
    rw [hunpack] at hx
    cases hx
  | infinity s =>
    rw [hunpack] at hx
    cases hx
    exact .inr (.inl rfl)
  | zero s =>
    rw [hunpack] at hx
    cases hx
    exact .inl rfl
  | finite s m e hm =>
    rw [hunpack] at hx
    cases hx
    obtain ⟨j, rfl, hj, hcanonical⟩ := canonical_of_unpack hunpack
    exact .inr (.inr ⟨m, j, hm, hcanonical, hj, rfl⟩)

theorem units_lt_of_lt (hx : HasPlus x) (hy : HasPlus y) (h : x < y) : units x < units y := by
  obtain ⟨a, ha, b, hb, hab⟩ := double_lt_iff.mp h
  rw [units, units]
  obtain hx | hx | ⟨m, j, hm, hcan, hj, hx⟩ := hx.unpack_cases <;>
    obtain hy | hy | ⟨m', j', hm', hcan', hj', hy⟩ := hy.unpack_cases <;>
      rw [hx] at ha ⊢ <;> rw [hy] at hb ⊢ <;> cases ha <;> cases hb <;>
        simp [magnitude, Prod.Lex.toLex_lt_toLex] at hab ⊢
  · exact overflow_pos
  · exact hm'
  · exact hcan.lt_overflow hj
  · rcases hab with hexponent | ⟨rfl, hmantissa⟩
    · exact hcan.lt_of_lt hcan' hexponent
    · exact Nat.mul_lt_mul_of_pos_right hmantissa (Nat.two_pow_pos _)

theorem double_le_iff_units_le (hx : HasPlus x) (hy : HasPlus y) : x ≤ y ↔ units x ≤ units y := by
  constructor
  · intro hle
    by_cases hlt : x < y
    · exact (units_lt_of_lt hx hy hlt).le
    · rw [hx.eq_of_not_lt hy hlt (double_not_lt_of_le hle)]
  · intro hle
    by_contra hnot
    have hlt : y < x := by
      by_contra hnlt
      exact hnot ((double_not_lt_iff hy.isNumber hx.isNumber).mp hnlt)
    exact absurd hle (Nat.not_le_of_lt (units_lt_of_lt hy hx hlt))

theorem unpack_add (x y : Float) : (x + y).toModel.unpack = unpack .binary64
    (UnpackedFloat.pack .binary64 (.add .binary64 x.toModel.unpack y.toModel.unpack)) :=
  rfl

/-- A double needs no rounding. -/
theorem rounded_units (hx : HasPlus x) : min (rounded (units x)) overflow = units x := by
  rw [units]
  obtain hx | hx | ⟨m, j, hm, hcan, hj, hx⟩ := hx.unpack_cases
  · rw [hx]
    exact Nat.zero_min _
  · rw [hx, magnitude, rounded_overflow, min_self]
  · rw [hx, magnitude_finite, rounded_mul_two_pow hcan.lt, min_eq_left (hcan.lt_overflow hj).le]

theorem units_add_of_zero (hx : x.toModel.unpack = .zero .positive) (hy : HasPlus y) :
    units (x + y) = min (rounded (units x + units y)) overflow := by
  have hadd : UnpackedFloat.add .binary64 x.toModel.unpack y.toModel.unpack = y.toModel.unpack := by
    rw [hx]
    obtain hy | hy | ⟨m, j, hm, -, -, hy⟩ := hy.unpack_cases <;> rw [hy] <;> rfl
  have hzero : units x = 0 := by rw [units, hx, magnitude]
  have hpack : UnpackedFloat.pack .binary64 y.toModel.unpack = y.toModel.toBits.toBitVec :=
    pack_unpack_of_valid y.toModel.valid
  rw [hzero, zero_add, rounded_units hy, units, unpack_add, hadd, hpack]
  rfl

theorem units_add_of_infinity (hx : x.toModel.unpack = .infinity .positive) (hy : HasPlus y) :
    units (x + y) = min (rounded (units x + units y)) overflow := by
  have hadd : UnpackedFloat.add .binary64 x.toModel.unpack y.toModel.unpack =
      .infinity .positive := by
    rw [hx]
    obtain hy | hy | ⟨m, j, hm, -, -, hy⟩ := hy.unpack_cases <;> rw [hy] <;> rfl
  have hinfinity : units x = overflow := by rw [units, hx, magnitude]
  have hle : overflow ≤ rounded (overflow + units y) := by
    conv_lhs => rw [← rounded_overflow]
    exact rounded_mono (Nat.le_add_right _ _)
  rw [hinfinity, min_eq_right hle, units, unpack_add, hadd, UnpackedFloat.pack.eq_def]
  dsimp only
  rw [unpack_packInfinity, magnitude]

/-- A mantissa that is shifted to the smaller exponent keeps its value. -/
theorem shifted_mul_two_pow (m j j' : ℕ) : m * 2 ^ (j - min j j') * 2 ^ min j j' = m * 2 ^ j := by
  rw [mul_assoc, ← pow_add, Nat.sub_add_cancel (min_le_left j j')]

/-- Mantissas are added at the smaller exponent, and only their sum is rounded. -/
theorem add_finite {m j m' j' : ℕ} (hm : 0 < m) (hm' : 0 < m') :
    UnpackedFloat.add .binary64 (.finite .positive m (j - 1074) hm)
        (.finite .positive m' (j' - 1074) hm') =
      .round .binary64 .positive (m * 2 ^ (j - min j j') + m' * 2 ^ (j' - min j j'))
        ((min j j' : ℕ) - 1074) := by
  have hmin : min ((j : ℤ) - 1074) (j' - 1074) = (min j j' : ℕ) - 1074 := by omega
  have hshift : ∀ i : ℕ, ((i : ℤ) - 1074 - ((min j j' : ℕ) - 1074)).toNat = i - min j j' := by omega
  have hpos : 0 < ((m * 2 ^ (j - min j j') + m' * 2 ^ (j' - min j j') : ℕ) : ℤ) :=
    Int.natCast_pos.mpr (Nat.add_pos_left (Nat.mul_pos hm (Nat.two_pow_pos _)) _)
  dsimp only [UnpackedFloat.add, UnpackedFloat.normalize, decreaseExponent, Sign.apply]
  rw [hmin, hshift, hshift, Nat.shiftLeft_eq, Nat.shiftLeft_eq, ← Nat.cast_add,
    compare_gt_iff_gt.mpr hpos, Int.toNat_natCast]

/-- The sum of two numbers with a plus sign is their exact sum, rounded. -/
theorem units_add (hx : HasPlus x) (hy : HasPlus y) :
    units (x + y) = min (rounded (units x + units y)) overflow := by
  obtain hxz | hxi | ⟨m, j, hm, -, -, hxf⟩ := hx.unpack_cases
  · exact units_add_of_zero hxz hy
  · exact units_add_of_infinity hxi hy
  obtain hyz | hyi | ⟨m', j', hm', -, -, hyf⟩ := hy.unpack_cases
  · rw [double_add_comm, add_comm (units x)]
    exact units_add_of_zero hyz hx
  · rw [double_add_comm, add_comm (units x)]
    exact units_add_of_infinity hyi hx
  · have hsum : 0 < m * 2 ^ (j - min j j') + m' * 2 ^ (j' - min j j') :=
      Nat.add_pos_left (Nat.mul_pos hm (Nat.two_pow_pos _)) _
    have hexact : (m * 2 ^ (j - min j j') + m' * 2 ^ (j' - min j j')) * 2 ^ min j j' =
        m * 2 ^ j + m' * 2 ^ j' := by
      rw [add_mul, shifted_mul_two_pow, min_comm, shifted_mul_two_pow]
    rw [units, units, units, unpack_add, hxf, hyf, add_finite hm hm',
      magnitude_of_settled (settled_round hsum (min j j')), hexact, magnitude_finite,
      magnitude_finite]

/-- Sums grow with what is added. -/
theorem double_add_le_add_right {z : Float} (hx : HasPlus x) (hy : HasPlus y) (hz : HasPlus z)
    (h : x ≤ y) : x + z ≤ y + z := by
  rw [double_le_iff_units_le hx hy] at h
  rw [double_le_iff_units_le (hx.add hz) (hy.add hz), units_add hx hz, units_add hy hz]
  exact min_le_min_right _ (rounded_mono (Nat.add_le_add_right h _))

end Sums

end DidYouMean
