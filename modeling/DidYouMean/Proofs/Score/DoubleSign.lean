import DidYouMean.Proofs.Score.DoubleOrder
import DidYouMean.Proofs.Score.Order
import DidYouMean.Ranking.Bonus
import Mathlib

/-!
# Doubles with a plus sign

Among doubles, comparison fails to be a linear order for two reasons: NaN is not comparable, and the
two zeros count as equal.  Neither is among the numbers with a plus sign, and sums of these have a
plus sign again, although they are rounded.

## Main definitions

- `HasPlus`: a double is a number with a plus sign

## Main statements

- `HasPlus.add`: sums keep the plus sign
- `linear_of_hasPlus`: comparison is a linear order on numbers with a plus sign
- `hasPlus_finalScore`: the final score of a candidate that is similar enough is one of these
-/

namespace DidYouMean

open Float.Model

/-- The sign of a number. -/
def signOf? : UnpackedFloat → Option UnpackedFloat.Sign
  | .notANumber => none
  | .infinity s => some s
  | .zero s => some s
  | .finite s _ _ _ => some s

section Rounding

variable {spec : Format}

theorem signOf?_unpack_packComponents {s : UnpackedFloat.Sign} {e : BitVec spec.exponentBits}
    {m : BitVec spec.mantissaBitsWithoutImplicit} (h : e = -1#_ → m = 0#_) :
    signOf? (.unpack spec (UnpackedFloat.packComponents spec s e m)) = some s := by
  rw [UnpackedFloat.unpack]
  simp only [UnpackedFloat.unpackExponent_packComponents,
    UnpackedFloat.unpackMantissa_packComponents, UnpackedFloat.unpackSign_packComponents,
    UnpackedFloat.Sign.ofBitVec_toBitVec]
  by_cases he : e = -1#_
  · rw [if_pos he, if_pos (h he)]
    rfl
  · rw [if_neg he]
    split_ifs <;> rfl

/-- A number keeps its sign when it is packed, even where it becomes infinite. -/
theorem signOf?_unpack_pack (u : UnpackedFloat) :
    signOf? (.unpack spec (UnpackedFloat.pack spec u)) = signOf? u := by
  cases u with
  | notANumber => rw [UnpackedFloat.pack.eq_def, UnpackedFloat.unpack_packedNaN]
  | infinity s => exact signOf?_unpack_packComponents fun _ => rfl
  | zero s => exact signOf?_unpack_packComponents fun _ => rfl
  | finite s m e hm =>
    rw [UnpackedFloat.pack.eq_def]
    dsimp only
    split_ifs with hlarge hnormal
    · exact signOf?_unpack_packComponents fun _ => rfl
    · refine signOf?_unpack_packComponents fun he => absurd (congrArg BitVec.toNat he) ?_
      rw [BitVec.toNat_ofNat, Nat.mod_eq_of_lt (by omega), BitVec.neg_one_eq_allOnes,
        BitVec.toNat_allOnes]
      omega
    · refine signOf?_unpack_packComponents fun he => absurd he ?_
      have hbits := spec.he
      simp only [BitVec.zero_eq_neg_one_iff]
      omega

theorem signOf?_round (s : UnpackedFloat.Sign) (m : Nat) (e : Int) :
    signOf? (.round spec s m e) = some s := by
  rw [UnpackedFloat.round]
  dsimp only [UnpackedFloat.roundWithAccuracy]
  split_ifs <;> rfl

theorem signOf?_add (spec : Format) {x y : UnpackedFloat} (hx : signOf? x = some .positive)
    (hy : signOf? y = some .positive) : signOf? (.add spec x y) = some .positive := by
  cases x with
  | notANumber => cases hx
  | infinity s =>
    cases hx
    cases y with
    | notANumber => cases hy
    | infinity s => cases hy; rfl
    | zero s => rfl
    | finite s m e hm => rfl
  | zero s =>
    cases hx
    cases y with
    | zero s => cases hy; rfl
    | _ => exact hy
  | finite s m e hm =>
    cases hx
    cases y with
    | notANumber => cases hy
    | infinity s => cases hy; rfl
    | zero s => rfl
    | finite s' m' e' hm' =>
      cases hy
      -- the mantissas are added at the smaller exponent, and the left one is not lost there
      have hleft : 0 < m <<< (e - min e e').toNat := by
        rw [Nat.shiftLeft_eq]
        exact Nat.mul_pos hm (Nat.two_pow_pos _)
      have hsum : 0 < UnpackedFloat.Sign.positive.apply (m <<< (e - min e e').toNat : Nat) +
          UnpackedFloat.Sign.positive.apply (m' <<< (e' - min e e').toNat : Nat) :=
        Int.add_pos_of_pos_of_nonneg (Int.natCast_pos.mpr hleft) (Int.natCast_nonneg _)
      dsimp only [UnpackedFloat.add, UnpackedFloat.normalize, UnpackedFloat.decreaseExponent]
      rw [compare_gt_iff_gt.mpr hsum]
      exact signOf?_round _ _ _

end Rounding

/-- A number with a plus sign. -/
def HasPlus (x : Float) : Prop :=
  signOf? x.toModel.unpack = some .positive

namespace HasPlus

variable {x y : Float}

theorem add (hx : HasPlus x) (hy : HasPlus y) : HasPlus (x + y) := by
  have hsum := signOf?_add .binary64 hx hy
  rw [← signOf?_unpack_pack] at hsum
  exact hsum

theorem of_pos (h : 0.0 < x) : HasPlus x := by
  obtain ⟨a, ha, b, hb, hlt⟩ := double_lt_iff.mp h
  have hzero : linePlace? (0.0 : Float).toModel.unpack = some (toLex (0, toLex (0, 0))) := by
    decide
  cases ha.symm.trans hzero
  rw [HasPlus]
  revert hb
  rcases x.toModel.unpack with s | _ | s | ⟨s, m, e, _⟩
  · cases s <;> intro hb
    · cases hb
      exact absurd hlt (by decide)
    · rfl
  · intro hb
    cases hb
  · intro hb
    cases hb
    exact absurd hlt (lt_irrefl _)
  · cases s <;> intro hb
    · cases hb
      simp [Prod.Lex.lt_iff] at hlt
    · rfl

theorem isNumber (hx : HasPlus x) : x ≤ x := by
  have hplace : ∃ a, linePlace? x.toModel.unpack = some a := by
    rw [HasPlus] at hx
    revert hx
    rcases x.toModel.unpack with (_ | _) | _ | _ | ⟨_ | _, m, e, _⟩ <;>
      simp [signOf?, linePlace?]
  obtain ⟨a, ha⟩ := hplace
  exact double_le_iff.mpr ⟨a, ha, a, ha, le_rfl⟩

/-- Two numbers with a plus sign at one place of the line are the same number. -/
theorem eq_of_linePlace_eq (hx : HasPlus x) (hy : HasPlus y)
    (h : linePlace? x.toModel.unpack = linePlace? y.toModel.unpack) : x = y := by
  have hunpack : x.toModel.unpack = y.toModel.unpack := by
    rw [HasPlus] at hx hy
    revert hx hy h
    rcases x.toModel.unpack with (_ | _) | _ | _ | ⟨_ | _, m, e, _⟩ <;>
      rcases y.toModel.unpack with (_ | _) | _ | _ | ⟨_ | _, m', e', _⟩ <;>
        simp +contextual [signOf?, linePlace?]
  have hbits := (UnpackedFloat.unpack_inj_of_valid x.toModel.valid y.toModel.valid).mp hunpack
  exact Float.toBits_inj.mp (UInt64.toBitVec_inj.mp hbits)

theorem eq_of_not_lt (hx : HasPlus x) (hy : HasPlus y) (hxy : ¬x < y) (hyx : ¬y < x) : x = y := by
  have hle := (double_not_lt_iff hy.isNumber hx.isNumber).mp hyx
  have hge := (double_not_lt_iff hx.isNumber hy.isNumber).mp hxy
  obtain ⟨a, ha, b, hb, hab⟩ := double_le_iff.mp hle
  obtain ⟨b', hb', a', ha', hba⟩ := double_le_iff.mp hge
  cases Option.mem_unique ha ha'
  cases Option.mem_unique hb hb'
  have hplace : a = b := le_antisymm hab hba
  exact hx.eq_of_linePlace_eq hy (by rw [ha, hb, hplace])

end HasPlus

/-- Comparison is a linear order on numbers with a plus sign. -/
theorem linear_of_hasPlus {scores : List Float} (h : ∀ x ∈ scores, HasPlus x) : Linear scores where
  asymm x _ y _ hxy := double_not_lt_of_le (double_le_of_lt hxy)
  negTrans x hx y hy z hz hxy hyz := by
    have hyx := (double_not_lt_iff (h x hx).isNumber (h y hy).isNumber).mp hxy
    have hzy := (double_not_lt_iff (h y hy).isNumber (h z hz).isNumber).mp hyz
    exact double_not_lt_of_le (double_le_trans hzy hyx)
  eq_of_not_lt x hx y hy := (h x hx).eq_of_not_lt (h y hy)

section Scores

theorem hasPlus_zero : HasPlus 0.0 := by
  rw [HasPlus]
  rfl

theorem hasPlus_of_leastScore_le {x : Float} (h : Score.leastScore ≤ x) : HasPlus x := by
  have hleast : (0.0 : Float) < Score.leastScore := by decide
  exact .of_pos (double_lt_of_lt_of_le hleast h)

theorem hasPlus_tierBonus (t : Tier) : HasPlus t.bonus := by
  cases t with
  | localScope => exact .of_pos (by decide)
  | currentClass => exact .of_pos (by decide)
  | currentProject => exact .of_pos (by decide)
  | externalLibrary => exact hasPlus_zero

theorem hasPlus_wellKnownBonus (s : Symbol) (similarity : Float) :
    HasPlus (wellKnownBonus s similarity) := by
  rw [wellKnownBonus]
  split_ifs
  · exact hasPlus_zero
  · exact .of_pos (by decide)
  · exact hasPlus_zero

/-- The final score of a candidate that is similar enough is a number with a plus sign. -/
theorem hasPlus_finalScore {c : Candidate} {similarity : Float}
    (h : Score.leastScore ≤ similarity) : HasPlus (finalScore c similarity) :=
  ((hasPlus_of_leastScore_le h).add (hasPlus_tierBonus c.tier)).add (hasPlus_wellKnownBonus _ _)

end Scores

end DidYouMean
