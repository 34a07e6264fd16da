import DidYouMean.Proofs.Score.DoubleOperations

/-!
# Quotients of doubles

A quotient is computed with enough bits, cut off and rounded.  Rounding does not carry it past a double
that the exact quotient does not pass, from either side, and so quotients can be compared with doubles
by their exact values.

## Main statements

- `hasPlus_div_and_units_le`, `hasPlus_div_and_le_units`: what a quotient does not pass
- `hasPlus_div_and_div_le_one`: the quotient of a number by one that is not smaller
- `half_le_div_ofNat_iff`, `pos_div_ofNat_iff`: a share of a count is compared with one half, and with
  zero, exactly
- `one_div_ofNat_le_iff`: reciprocals of counts that are not too large can be told apart
-/

namespace DidYouMean

open Float.Model UnpackedFloat Rounding

section Mantissas

variable {m j m' j' c i : ℕ}

/-- How many bits a quotient has at least. -/
theorem le_log2_div {m m' bits shift : ℕ} (hm : 0 < m) (hm' : 0 < m')
    (h : bits + (m'.log2 + 1) ≤ m.log2 + shift) : bits ≤ (m * 2 ^ shift / m').log2 := by
  have hfull : 2 ^ bits * m' ≤ m * 2 ^ shift := by
    calc 2 ^ bits * m'
      _ ≤ 2 ^ bits * 2 ^ (m'.log2 + 1) := Nat.mul_le_mul_left _ Nat.lt_log2_self.le
      _ ≤ 2 ^ m.log2 * 2 ^ shift := by
        rw [← pow_add, ← pow_add]
        exact Nat.pow_le_pow_right two_pos h
      _ ≤ m * 2 ^ shift := Nat.mul_le_mul_right _ (Nat.log2_self_le hm.ne')
  have hquotient : 2 ^ bits ≤ m * 2 ^ shift / m' := (Nat.le_div_iff_mul_le hm').mpr hfull
  exact (Nat.le_log2 (hquotient.trans_lt' (Nat.two_pow_pos _)).ne').mpr hquotient

/-- A quotient is computed at an exponent that leaves it enough bits. -/
theorem exists_divCore (hm : 0 < m) (hm' : 0 < m') (j j' : ℕ) :
    ∃ (shift t : ℕ) (e : ℤ), (52 ≤ (m * 2 ^ shift / m').log2 ∨ e ≤ -1074) ∧
      e + 1074 + j' = t ∧ shift + t = j + 1074 ∧
      divCore .binary64 m (j - 1074) m' (j' - 1074) =
        (m * 2 ^ shift / m', e, accuracyOfFraction (m * 2 ^ shift % m') m') := by
  obtain ⟨e, he⟩ : ∃ e : ℤ, min ((j : ℤ) - 1074 - (j' - 1074))
      (max (m.log2 + j - (m'.log2 + j') - 53) (-1074)) = e := ⟨_, rfl⟩
  obtain ⟨shift, hshift⟩ : ∃ shift : ℕ, (j : ℤ) - 1074 - (j' - 1074) - e = shift :=
    ⟨((j : ℤ) - 1074 - (j' - 1074) - e).toNat, by omega⟩
  obtain ⟨t, ht⟩ : ∃ t : ℕ, e + 1074 + j' = t := ⟨(e + 1074 + j').toNat, by omega⟩
  refine ⟨shift, t, e, ?_, ht, by omega, ?_⟩
  · by_cases hsmall : e ≤ -1074
    · exact .inr hsmall
    · exact .inl (le_log2_div hm hm' (by omega))
  · have htarget : min ((j : ℤ) - 1074 - (j' - 1074)) (Format.binary64.targetExponent
        (totalExponent m (j - 1074) - totalExponent m' (j' - 1074))) = e := by
      rw [← he]
      simp only [Format.targetExponent, totalExponent, Format.mantissaBits, Format.minExponent]
      norm_num
      omega
    dsimp only [divCore]
    rw [htarget, hshift, Int.toNat_natCast, Nat.shiftLeft_eq]

/-- A quotient of mantissas, and its exact value in a unit that makes it whole. -/
theorem exists_div_eq (hm : 0 < m) (hm' : 0 < m') (j j' : ℕ) :
    ∃ (a t : ℕ) (e : ℤ), (52 ≤ (a / m').log2 ∨ e ≤ -1074) ∧ e + 1074 + j' = t ∧
      a * 2 ^ t = m * 2 ^ j * 2 ^ 1074 ∧
      UnpackedFloat.div .binary64 (.finite .positive m (j - 1074) hm)
          (.finite .positive m' (j' - 1074) hm') =
        roundWithAccuracy .binary64 .positive (a / m') e (accuracyOfFraction (a % m') m') := by
  obtain ⟨shift, t, e, hbits, ht, hsum, hcore⟩ := exists_divCore hm hm' j j'
  refine ⟨m * 2 ^ shift, t, e, hbits, ht, ?_, ?_⟩
  · rw [mul_assoc, mul_assoc, ← pow_add, ← pow_add, hsum]
  · rw [UnpackedFloat.div.eq_def]
    dsimp only
    rw [hcore]
    rfl

/-- With enough bits, all of them are in use unless the exponent is the least one. -/
theorem two_pow_le_of_log2 {q : ℕ} {e : ℤ} (hbits : 52 ≤ q.log2 ∨ e ≤ -1074) (he : -1074 < e) :
    2 ^ 52 ≤ q := by
  have hlog := hbits.resolve_right (by omega)
  refine (Nat.le_log2 ?_).mp hlog
  rintro rfl
  simp at hlog

/-- A quotient is rounded to no more than a double that its exact value is not above. -/
theorem exists_settled_div_le (hm : 0 < m) (hm' : 0 < m') (hc : c < 2 ^ 53)
    (hle : m * 2 ^ j * 2 ^ 1074 ≤ c * 2 ^ i * (m' * 2 ^ j')) :
    ∃ n ≤ c * 2 ^ i, Settled (.div .binary64 (.finite .positive m (j - 1074) hm)
      (.finite .positive m' (j' - 1074) hm')) n := by
  obtain ⟨a, t, e, hbits, ht, ha, hdiv⟩ := exists_div_eq hm hm' j j'
  have hexact : a * 2 ^ t ≤ c * 2 ^ (i + j') * m' := by
    rw [ha]
    exact hle.trans_eq (by rw [pow_add]; ring)
  -- no bits are missing at the exponent of the bound
  have hti : t ≤ i + j' := by
    by_contra hlt
    have hfull := two_pow_le_of_log2 hbits (by omega)
    have hquotient : a / m' * 2 ^ t ≤ c * 2 ^ (i + j') := by
      refine Nat.le_of_mul_le_mul_right (c := m') ?_ hm'
      calc a / m' * 2 ^ t * m'
        _ = a / m' * m' * 2 ^ t := by ring
        _ ≤ _ := (Nat.mul_le_mul_right _ (Nat.div_mul_le_self a m')).trans hexact
    exact hlt (exponent_le hfull hc hquotient)
  have hmantissa : a ≤ c * 2 ^ (i + j' - t) * m' := by
    refine Nat.le_of_mul_le_mul_right (c := 2 ^ t) (hexact.trans_eq ?_) (Nat.two_pow_pos _)
    rw [show i + j' = i + j' - t + t by omega, pow_add, Nat.add_sub_cancel]
    ring
  have hweight := Nat.mul_le_mul_right (2 ^ t) (weight_quotient_le hmantissa)
  rw [mul_assoc 4, mul_assoc c, ← pow_add, Nat.sub_add_cancel hti] at hweight
  rw [hdiv]
  exact exists_settled_le hbits ht hc hweight

/-- Nor to less than one that is not above it. -/
theorem exists_le_settled_div (hm : 0 < m) (hm' : 0 < m') (hc : c < 2 ^ 53)
    (hle : c * 2 ^ i * (m' * 2 ^ j') ≤ m * 2 ^ j * 2 ^ 1074) :
    ∃ n, c * 2 ^ i ≤ n ∧ Settled (.div .binary64 (.finite .positive m (j - 1074) hm)
      (.finite .positive m' (j' - 1074) hm')) n := by
  obtain ⟨a, t, e, hbits, ht, ha, hdiv⟩ := exists_div_eq hm hm' j j'
  have hexact : c * 2 ^ (i + j') * m' ≤ a * 2 ^ t := by
    rw [ha]
    exact le_of_eq_of_le (by rw [pow_add]; ring) hle
  rw [hdiv]
  refine exists_le_settled hbits _ ht hc ?_
  rcases Nat.lt_or_ge (i + j') t with hlt | hge
  · calc c * 2 ^ (i + j')
      _ ≤ 2 ^ 53 * 2 ^ (i + j') := Nat.mul_le_mul_right _ hc.le
      _ = 2 ^ 52 * 2 ^ (i + j' + 1) := by rw [pow_succ]; ring
      _ ≤ 2 ^ 52 * 2 ^ t := Nat.mul_le_mul_left _ (Nat.pow_le_pow_right two_pos hlt)
      _ ≤ a / m' * 2 ^ t := Nat.mul_le_mul_right _ (two_pow_le_of_log2 hbits (by omega))
  · have hmantissa : c * 2 ^ (i + j' - t) * m' ≤ a := by
      refine Nat.le_of_mul_le_mul_right (c := 2 ^ t) (le_of_eq_of_le ?_ hexact) (Nat.two_pow_pos _)
      rw [show i + j' = i + j' - t + t by omega, pow_add, Nat.add_sub_cancel]
      ring
    calc c * 2 ^ (i + j')
      _ = c * 2 ^ (i + j' - t) * 2 ^ t := by rw [mul_assoc, ← pow_add, Nat.sub_add_cancel hge]
      _ ≤ a / m' * 2 ^ t := Nat.mul_le_mul_right _ ((Nat.le_div_iff_mul_le hm').mpr hmantissa)

end Mantissas

section Quotients

variable {x y : Float} {c i : ℕ}

/-- A quotient is rounded to no more than a double that its exact value is not above. -/
theorem hasPlus_div_and_units_le (hx : HasPlus x) (hy : HasPlus y) (hfinite : units x < overflow)
    (hpos : 0 < units y) (hc : c < 2 ^ 53) (hle : units x * 2 ^ 1074 ≤ c * 2 ^ i * units y) :
    HasPlus (x / y) ∧ units (x / y) ≤ c * 2 ^ i := by
  obtain ⟨n, hn, hsettled⟩ : ∃ n ≤ c * 2 ^ i,
      Settled (.div .binary64 x.toModel.unpack y.toModel.unpack) n := by
    obtain ⟨-, hye⟩ | ⟨hyu, -⟩ | ⟨m', j', hm', -, hyu, hye, -⟩ := hy.unpack_units_cases
    · exact absurd hye hpos.ne'
    · obtain ⟨hxu, -⟩ | ⟨-, hxe⟩ | ⟨m, j, hm, -, hxu, -⟩ := hx.unpack_units_cases
      · exact ⟨0, Nat.zero_le _, .inl ⟨rfl, by rw [hxu, hyu]; rfl⟩⟩
      · exact absurd hxe hfinite.ne
      · exact ⟨0, Nat.zero_le _, .inl ⟨rfl, by rw [hxu, hyu]; rfl⟩⟩
    · obtain ⟨hxu, -⟩ | ⟨-, hxe⟩ | ⟨m, j, hm, -, hxu, hxe, -⟩ := hx.unpack_units_cases
      · exact ⟨0, Nat.zero_le _, .inl ⟨rfl, by rw [hxu, hyu]; rfl⟩⟩
      · exact absurd hxe hfinite.ne
      · rw [hxe, hye] at hle
        rw [hxu, hyu]
        exact exists_settled_div_le hm hm' hc hle
  exact hasPlus_and_units_le hsettled hn (unpack_div x y)

theorem HasPlus.div (hx : HasPlus x) (hy : HasPlus y) (hfinite : units x < overflow)
    (hpos : 0 < units y) : HasPlus (x / y) := by
  have hle : units x * 2 ^ 1074 ≤ 2 ^ 52 * 2 ^ (topExponent + 1 + 1074) * units y := by
    rw [pow_add, ← mul_assoc, ← overflow]
    exact (Nat.mul_le_mul_right _ hfinite.le).trans (Nat.le_mul_of_pos_right _ hpos)
  exact (hasPlus_div_and_units_le hx hy hfinite hpos (by decide) hle).1

/-- Nor to less than one that is not above it. -/
theorem hasPlus_div_and_le_units (hx : HasPlus x) (hy : HasPlus y) (hpos : 0 < units y)
    (hfinite : units y < overflow) (hc : c < 2 ^ 53) (hi : c * 2 ^ i ≤ overflow)
    (hle : c * 2 ^ i * units y ≤ units x * 2 ^ 1074) :
    HasPlus (x / y) ∧ c * 2 ^ i ≤ units (x / y) := by
  have hunpack := unpack_div x y
  obtain ⟨-, hye⟩ | ⟨-, hye⟩ | ⟨m', j', hm', -, hyu, hye, -⟩ := hy.unpack_units_cases
  · exact absurd hye hpos.ne'
  · exact absurd hye hfinite.ne
  · obtain ⟨n, hn, hplus, hunits⟩ : ∃ n, c * 2 ^ i ≤ n ∧ HasPlus (x / y) ∧
        units (x / y) = min n overflow := by
      obtain ⟨hxu, hxe⟩ | ⟨hxu, -⟩ | ⟨m, j, hm, -, hxu, hxe, -⟩ := hx.unpack_units_cases
      · have hzero : c * 2 ^ i = 0 := by
          rw [hxe, Nat.zero_mul] at hle
          exact (Nat.mul_eq_zero.mp (Nat.le_zero.mp hle)).resolve_right hpos.ne'
        exact ⟨0, hzero.le, hasPlus_and_units_eq (.inl ⟨rfl, by rw [hxu, hyu]; rfl⟩) hunpack⟩
      · have hinfinity : (x / y).toModel.unpack = .infinity .positive := by
          rw [hunpack, hxu, hyu, UnpackedFloat.div, UnpackedFloat.pack.eq_def]
          exact unpack_packInfinity _
        refine ⟨overflow, hi, ?_, ?_⟩
        · rw [HasPlus, hinfinity, signOf?]
        · rw [units, hinfinity, magnitude, min_self]
      · rw [hxe, hye] at hle
        rw [hxu, hyu] at hunpack
        obtain ⟨n, hn, hsettled⟩ := exists_le_settled_div hm hm' hc hle
        exact ⟨n, hn, hasPlus_and_units_eq hsettled hunpack⟩
    exact ⟨hplus, hunits ▸ le_min hn hi⟩

/-- Neither zero nor infinity can be divided by itself. -/
theorem not_isNumber_div (hx : HasPlus x) (hy : HasPlus y)
    (h : units x = 0 ∧ units y = 0 ∨ units x = overflow ∧ units y = overflow) :
    ¬x / y ≤ x / y := by
  have hundefined : UnpackedFloat.div .binary64 x.toModel.unpack y.toModel.unpack =
      .notANumber := by
    obtain ⟨hxe, hye⟩ | ⟨hxe, hye⟩ := h
    · rw [hx.unpack_of_units_eq_zero hxe, hy.unpack_of_units_eq_zero hye]
      rfl
    · rw [hx.unpack_of_units_eq_overflow hxe, hy.unpack_of_units_eq_overflow hye]
      rfl
  rw [isNumber_iff, not_not, unpack_div, hundefined, UnpackedFloat.pack.eq_def, unpack_packedNaN]

/-- Neither the quotient of nothing nor one by infinity is positive. -/
theorem not_pos_div (hx : HasPlus x) (hy : HasPlus y)
    (h : units x = 0 ∧ 0 < units y ∨ units y = overflow) : ¬0.0 < x / y := by
  have hunpack := unpack_div x y
  have hzero : UnpackedFloat.div .binary64 x.toModel.unpack y.toModel.unpack = .zero .positive →
      ¬0.0 < x / y := by
    intro hdiv
    obtain ⟨hplus, hunits⟩ := hasPlus_and_units_eq (.inl ⟨rfl, hdiv⟩) hunpack
    rw [hplus.pos_iff, hunits, Nat.zero_min]
    exact lt_irrefl 0
  obtain ⟨hxe, hpos⟩ | hye := h
  · refine hzero ?_
    rw [hx.unpack_of_units_eq_zero hxe]
    obtain ⟨-, hye⟩ | ⟨hyu, -⟩ | ⟨m', j', hm', -, hyu, -⟩ := hy.unpack_units_cases
    · exact absurd hye hpos.ne'
    · rw [hyu]
      rfl
    · rw [hyu]
      rfl
  · have hyu := hy.unpack_of_units_eq_overflow hye
    obtain ⟨hxu, -⟩ | ⟨-, hxe⟩ | ⟨m, j, hm, -, hxu, -⟩ := hx.unpack_units_cases
    · exact hzero (by rw [hxu, hyu]; rfl)
    · intro hpos
      exact not_isNumber_div hx hy (.inr ⟨hxe, hye⟩) (double_le_self_right (double_le_of_lt hpos))
    · exact hzero (by rw [hxu, hyu]; rfl)

/-- The quotient of a number by one that is not smaller is at most one, unless it is undefined. -/
theorem hasPlus_div_and_div_le_one (hx : HasPlus x) (hy : HasPlus y) (hle : x ≤ y)
    (hnumber : x / y ≤ x / y) : HasPlus (x / y) ∧ x / y ≤ 1.0 := by
  rw [double_le_iff_units_le hx hy] at hle
  have hpos : 0 < units y := by
    by_contra hzero
    have hye : units y = 0 := Nat.eq_zero_of_not_pos hzero
    exact not_isNumber_div hx hy (.inl ⟨Nat.le_zero.mp (hye ▸ hle), hye⟩) hnumber
  have hfinite : units x < overflow := by
    by_contra hlarge
    have hxe : units x = overflow := le_antisymm hx.units_le_overflow (Nat.le_of_not_lt hlarge)
    have hye : units y = overflow := le_antisymm hy.units_le_overflow (hxe ▸ hle)
    exact not_isNumber_div hx hy (.inr ⟨hxe, hye⟩) hnumber
  obtain ⟨hplus, hunits⟩ := hasPlus_div_and_units_le (c := 1) (i := 1074) hx hy hfinite hpos
    (by decide) (by rw [Nat.one_mul, mul_comm]; exact Nat.mul_le_mul_left _ hle)
  refine ⟨hplus, (double_le_iff_units_le hplus hasPlus_one).mpr ?_⟩
  rwa [units_one, ← Nat.one_mul (2 ^ 1074)]

end Quotients

section Shares

variable {a b c i : ℕ}

theorem two_pow_mul_two_pow_lt_overflow : 2 ^ 53 * 2 ^ 1074 < overflow := by
  rw [overflow, ← pow_add, ← pow_add, Nat.pow_lt_pow_iff_right one_lt_two, topExponent]
  decide

/-- A count that is not too large is kept. -/
theorem units_ofNat_of_le {n : ℕ} (h : n ≤ 2 ^ 53) : units (Float.ofNat n) = n * 2 ^ 1074 := by
  have hfits : rounded (n * 2 ^ 1074) = n * 2 ^ 1074 := by
    rcases Nat.eq_or_lt_of_le h with rfl | hlt
    · rw [← pow_add, ← Nat.one_mul (2 ^ (53 + 1074))]
      exact rounded_mul_two_pow (by decide) _
    · exact rounded_mul_two_pow hlt _
  have hsmall : n * 2 ^ 1074 ≤ overflow :=
    (Nat.mul_le_mul_right _ h).trans two_pow_mul_two_pow_lt_overflow.le
  rw [(units_ofNat n).2, hfits, min_eq_left hsmall]

theorem units_ofNat_lt_overflow {n : ℕ} (h : n ≤ 2 ^ 53) : units (Float.ofNat n) < overflow := by
  rw [units_ofNat_of_le h]
  exact (Nat.mul_le_mul_right _ h).trans_lt two_pow_mul_two_pow_lt_overflow

theorem units_ofNat_pos {n : ℕ} (hn : 0 < n) : 0 < units (Float.ofNat n) := by
  have hle := (double_le_iff_units_le (units_ofNat 1).1 (units_ofNat n).1).mp (ofNat_le_ofNat hn)
  rw [units_ofNat_of_le (by decide), Nat.one_mul] at hle
  exact (pow_pos two_pos 1074).trans_le hle

/-- The quotient of two counts is rounded to no more than a double that the exact quotient is not
above. -/
theorem units_div_ofNat_le (hb : 0 < b) (ha : a ≤ 2 ^ 53) (hb' : b ≤ 2 ^ 53) (hc : c < 2 ^ 53)
    (hle : a * 2 ^ 1074 ≤ c * 2 ^ i * b) :
    HasPlus (Float.ofNat a / Float.ofNat b) ∧
      units (Float.ofNat a / Float.ofNat b) ≤ c * 2 ^ i := by
  refine hasPlus_div_and_units_le (units_ofNat a).1 (units_ofNat b).1 (units_ofNat_lt_overflow ha)
    (units_ofNat_pos hb) hc ?_
  rw [units_ofNat_of_le ha, units_ofNat_of_le hb', ← mul_assoc]
  exact Nat.mul_le_mul_right _ hle

/-- Nor to less than one that is not above it. -/
theorem le_units_div_ofNat (hb : 0 < b) (ha : a ≤ 2 ^ 53) (hb' : b ≤ 2 ^ 53) (hc : c < 2 ^ 53)
    (hi : i ≤ 1074) (hle : c * 2 ^ i * b ≤ a * 2 ^ 1074) :
    HasPlus (Float.ofNat a / Float.ofNat b) ∧
      c * 2 ^ i ≤ units (Float.ofNat a / Float.ofNat b) := by
  have hdouble : c * 2 ^ i ≤ overflow := by
    have hpow : 2 ^ i ≤ 2 ^ 1074 := pow_le_pow_right₀ one_le_two hi
    exact (Nat.mul_le_mul hc.le hpow).trans two_pow_mul_two_pow_lt_overflow.le
  refine hasPlus_div_and_le_units (units_ofNat a).1 (units_ofNat b).1 (units_ofNat_pos hb)
    (units_ofNat_lt_overflow hb') hc hdouble ?_
  rw [units_ofNat_of_le ha, units_ofNat_of_le hb', ← mul_assoc]
  exact Nat.mul_le_mul_right _ hle

/-- The share of one count in another one is one half at least if and only if the other one is not
more than twice as large. -/
theorem half_le_div_ofNat_iff (hb : 0 < b) (hab : a ≤ b) (hbound : b ≤ 2 ^ 53) :
    (0.5 : Float) ≤ Float.ofNat a / Float.ofNat b ↔ b ≤ 2 * a := by
  have ha := hab.trans hbound
  have hhalf : HasPlus 0.5 := .of_pos (by decide)
  constructor
  · intro hle
    by_contra hnot
    -- the greatest double below one half is not passed
    have hbelow : a * 2 ^ 1074 ≤ (2 ^ 53 - 1) * 2 ^ 1020 * b := by
      have hcounts : a * 2 ^ 54 ≤ (2 ^ 53 - 1) * b := by omega
      calc a * 2 ^ 1074
        _ = a * 2 ^ 54 * 2 ^ 1020 := by rw [mul_assoc a (2 ^ 54), ← pow_add]
        _ ≤ (2 ^ 53 - 1) * b * 2 ^ 1020 := Nat.mul_le_mul_right _ hcounts
        _ = _ := mul_right_comm (2 ^ 53 - 1) b _
    obtain ⟨hplus, hunits⟩ := units_div_ofNat_le hb ha hbound (by decide) hbelow
    rw [double_le_iff_units_le hhalf hplus, units_half] at hle
    have hstep : (2 ^ 53 - 1) * 2 ^ 1020 < 2 ^ 1073 := by
      rw [show 1073 = 53 + 1020 from rfl, pow_add]
      exact mul_lt_mul_of_pos_right (by decide) (pow_pos two_pos 1020)
    exact Nat.not_le_of_lt hstep (hle.trans hunits)
  · intro hle
    have habove : 1 * 2 ^ 1073 * b ≤ a * 2 ^ 1074 := by
      calc 1 * 2 ^ 1073 * b
        _ ≤ 1 * 2 ^ 1073 * (2 * a) := Nat.mul_le_mul_left _ hle
        _ = a * (2 ^ 1073 * 2) := by rw [one_mul, mul_comm 2 a, mul_left_comm]
        _ = a * 2 ^ 1074 := by rw [← pow_succ]
    obtain ⟨hplus, hunits⟩ := le_units_div_ofNat hb ha hbound (by decide) (by decide) habove
    rwa [double_le_iff_units_le hhalf hplus, units_half, ← Nat.one_mul (2 ^ 1073)]

/-- The share of a count in a larger one is positive if and only if the count is. -/
theorem pos_div_ofNat_iff (hb : 0 < b) (hab : a ≤ b) (hbound : b ≤ 2 ^ 53) :
    0.0 < Float.ofNat a / Float.ofNat b ↔ 0 < a := by
  have ha := hab.trans hbound
  rcases Nat.eq_zero_or_pos a with rfl | hpos
  · obtain ⟨hplus, hunits⟩ := units_div_ofNat_le (c := 0) (i := 0) hb ha hbound (by decide)
      (by omega)
    rw [hplus.pos_iff]
    omega
  · have hle : 1 * 2 ^ 1021 * b ≤ a * 2 ^ 1074 := by
      calc 1 * 2 ^ 1021 * b
        _ ≤ 1 * 2 ^ 1021 * 2 ^ 53 := Nat.mul_le_mul_left _ hbound
        _ = 1 * 2 ^ 1074 := by rw [mul_assoc, ← pow_add]
        _ ≤ a * 2 ^ 1074 := Nat.mul_le_mul_right _ hpos
    obtain ⟨hplus, hunits⟩ := le_units_div_ofNat hb ha hbound (by decide) (by decide) hle
    rw [hplus.pos_iff]
    have hleast : 0 < 1 * 2 ^ 1021 := by positivity
    exact iff_of_true (hleast.trans_le hunits) hpos

end Shares

section Reciprocals

variable {a b : ℕ}

theorem ofNat_one : Float.ofNat 1 = 1.0 := rfl

/-- Between the reciprocals of two counts there are two doubles next to each other. -/
theorem exists_mantissas_between (ha : 0 < a) (hab : a < b) (hbound : a ≤ 2 ^ 50) :
    ∃ c e, c + 1 < 2 ^ 53 ∧ e ≤ 50 ∧ 2 ^ (53 + e) ≤ c * b ∧ (c + 1) * a ≤ 2 ^ (53 + e) := by
  obtain ⟨e, he⟩ : ∃ e, a.log2 = e := ⟨_, rfl⟩
  have hlow : 2 ^ e ≤ a := he ▸ Nat.log2_self_le ha.ne'
  have hhigh : a < 2 ^ (e + 1) := he ▸ Nat.lt_log2_self
  have he50 : e ≤ 50 := by
    by_contra hlarge
    have hpow : 2 ^ 51 ≤ 2 ^ e := Nat.pow_le_pow_right two_pos (by omega)
    omega
  obtain ⟨q, hq⟩ : ∃ q, 2 ^ (53 + e) / a = q := ⟨_, rfl⟩
  have hfloor : q * a ≤ 2 ^ (53 + e) := hq ▸ Nat.div_mul_le_self _ _
  have hceil : 2 ^ (53 + e) < (q + 1) * a := by
    rw [← hq, mul_comm]
    exact Nat.lt_mul_div_succ _ ha
  -- the reciprocal is cut off to at least as many bits as a mantissa has
  have hlarge : 2 ^ 52 ≤ q := by
    rw [← hq, Nat.le_div_iff_mul_le ha]
    calc 2 ^ 52 * a
      _ ≤ 2 ^ 52 * 2 ^ (e + 1) := Nat.mul_le_mul_left _ hhigh.le
      _ = 2 ^ (53 + e) := by rw [← pow_add]; congr 1; omega
  have hsmall : q ≤ 2 ^ 53 := by
    rw [← hq]
    apply Nat.div_le_of_le_mul
    calc 2 ^ (53 + e)
      _ = 2 ^ e * 2 ^ 53 := by rw [← pow_add, add_comm]
      _ ≤ a * 2 ^ 53 := Nat.mul_le_mul_right _ hlow
  obtain ⟨c, rfl⟩ : ∃ c, q = c + 2 := ⟨q - 2, by omega⟩
  refine ⟨c, e, by omega, he50, ?_, ?_⟩
  · -- the next reciprocal is more than three steps of the grid lower
    calc 2 ^ (53 + e)
      _ ≤ c * a + 3 * a := by linarith
      _ ≤ c * a + c := by omega
      _ = c * (a + 1) := by ring
      _ ≤ c * b := Nat.mul_le_mul_left c hab
  · exact (Nat.mul_le_mul_right a (by omega)).trans hfloor

/-- Reciprocals of counts are in the opposite order. -/
theorem units_one_div_ofNat_lt (ha : 0 < a) (hab : a < b) (hbound : b ≤ 2 ^ 50) :
    units (1.0 / Float.ofNat b) < units (1.0 / Float.ofNat a) := by
  obtain ⟨c, e, hc, he, hupper, hlower⟩ := exists_mantissas_between ha hab (hab.le.trans hbound)
  obtain ⟨i, hi⟩ : ∃ i, 53 + e + i = 1074 := ⟨1021 - e, by omega⟩
  have hunit : 1 * 2 ^ 1074 = 2 ^ (53 + e) * 2 ^ i := by rw [one_mul, ← hi, pow_add]
  have hb : b ≤ 2 ^ 53 := hbound.trans (by decide)
  have hle : 1 * 2 ^ 1074 ≤ c * 2 ^ i * b := by
    rw [hunit, mul_right_comm]
    exact Nat.mul_le_mul_right _ hupper
  have hle' : (c + 1) * 2 ^ i * a ≤ 1 * 2 ^ 1074 := by
    rw [hunit, mul_right_comm]
    exact Nat.mul_le_mul_right _ hlower
  rw [← ofNat_one]
  calc units (Float.ofNat 1 / Float.ofNat b)
    _ ≤ c * 2 ^ i := (units_div_ofNat_le (ha.trans hab) (by decide) hb (by omega) hle).2
    _ < (c + 1) * 2 ^ i := Nat.mul_lt_mul_of_pos_right c.lt_succ_self (Nat.two_pow_pos i)
    _ ≤ _ := (le_units_div_ofNat ha (by decide) (hab.le.trans hb) hc (by omega) hle').2

theorem hasPlus_one_div_ofNat (ha : 0 < a) : HasPlus (1.0 / Float.ofNat a) :=
  hasPlus_one.div (units_ofNat a).1 units_one_lt_overflow (units_ofNat_pos ha)

theorem one_div_ofNat_le_iff (ha : 0 < a) (hb : 0 < b) (ha' : a ≤ 2 ^ 50) (hb' : b ≤ 2 ^ 50) :
    1.0 / Float.ofNat b ≤ 1.0 / Float.ofNat a ↔ a ≤ b := by
  rw [double_le_iff_units_le (hasPlus_one_div_ofNat hb) (hasPlus_one_div_ofNat ha)]
  constructor
  · intro hle
    by_contra hlt
    exact absurd (units_one_div_ofNat_lt hb (Nat.lt_of_not_le hlt) ha') (Nat.not_lt_of_le hle)
  · intro hle
    rcases Nat.eq_or_lt_of_le hle with rfl | hlt
    · exact le_rfl
    · exact (units_one_div_ofNat_lt ha hlt hb').le

/-- A reciprocal is not rounded to zero. -/
theorem pos_one_div_ofNat (ha : 0 < a) (ha' : a ≤ 2 ^ 53) : 0.0 < 1.0 / Float.ofNat a := by
  rw [← ofNat_one]
  exact (pos_div_ofNat_iff ha ha ha').mpr one_pos

end Reciprocals

end DidYouMean
