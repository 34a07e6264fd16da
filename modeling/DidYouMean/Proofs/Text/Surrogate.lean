import DidYouMean.Proofs.Text.CaseRuns
import DidYouMean.Text.Blank
import DidYouMean.Text.Digit
import DidYouMean.Text.Printable
import DidYouMean.Text.Surrogate

/-!
# What stands for lone surrogates

The characters that stand for lone surrogates tell which ones they stand for, and belong to no class of
characters to which a surrogate does not belong.

## Main statements

- `codeOf_ofCode`: a surrogate can be told from what stands for it
- `plain_of_isLoneSurrogate`: the classes of characters that have none of them, and their small forms
-/

namespace DidYouMean.Text

/-- The characters that stand for surrogates. -/
def standIns : CaseRun := ⟨0xDF800, 0xDFFFF, 1, 0⟩

variable {c : Char} {code : Nat}

theorem covers_standIns_iff : standIns.covers c.toNat ↔ 0xDF800 ≤ c.toNat ∧ c.toNat ≤ 0xDFFFF := by
  simp [CaseRun.covers_iff, standIns, Nat.mod_one]

theorem isLoneSurrogate_iff : isLoneSurrogate c ↔ standIns.covers c.toNat := by
  have hchar : c.toNat < 0xD800 ∨ 0xDFFF < c.toNat := by
    rcases c.valid with hlow | ⟨hhigh, -⟩
    · exact .inl hlow
    · exact .inr hhigh
  simp only [covers_standIns_iff, isLoneSurrogate, isSurrogateCode, codeOf, Bool.and_eq_true,
    decide_eq_true_eq]
  split <;> omega

theorem toNat_ofCode (h : isSurrogateCode code) : (ofCode code).toNat = code + 0xD2000 := by
  have hrange : 0xD800 ≤ code ∧ code ≤ 0xDFFF := by
    simpa [isSurrogateCode] using h
  have hvalid : (code + 0xD2000).isValidChar := by
    rw [Nat.isValidChar]
    omega
  rw [ofCode, if_pos h, Char.ofNat, dif_pos hvalid]
  rfl

theorem isLoneSurrogate_ofCode (h : isSurrogateCode code) : isLoneSurrogate (ofCode code) := by
  have hrange : 0xD800 ≤ code ∧ code ≤ 0xDFFF := by
    simpa [isSurrogateCode] using h
  rw [isLoneSurrogate_iff, covers_standIns_iff, toNat_ofCode h]
  omega

/-- What stands for a surrogate tells which one. -/
theorem codeOf_ofCode (h : isSurrogateCode code) : codeOf (ofCode code) = code := by
  have hcovers := isLoneSurrogate_iff.mp (isLoneSurrogate_ofCode h)
  rw [codeOf, if_pos (by simpa using covers_standIns_iff.mp hcovers), toNat_ofCode h,
    Nat.add_sub_cancel]

/-- Ranges that are apart from what stands for surrogates have none of it. -/
theorem inRanges_of_isLoneSurrogate {ranges : List (Nat × Nat)} (h : isLoneSurrogate c)
    (hapart : ranges.all fun range => (rangeRun range).apart standIns) :
    inRanges ranges c.toNat = false := by
  rw [Bool.eq_false_iff]
  intro hin
  obtain ⟨range, hmem, hcovers⟩ := inRanges_iff.mp hin
  exact CaseRun.not_covers_of_apart (List.all_eq_true.mp hapart range hmem) hcovers
    (isLoneSurrogate_iff.mp h)

/-- What stands for a surrogate is no white space, no digit and no letter with case, is not printable,
and has no small form but itself. -/
theorem plain_of_isLoneSurrogate (h : isLoneSurrogate c) :
    isBlank c = false ∧ isDecimal c = false ∧ isCased c = false ∧ isPrintable c = false ∧
      lowerChar c = [c] := by
  have hcovers := isLoneSurrogate_iff.mp h
  obtain ⟨hfirst, hlast⟩ := covers_standIns_iff.mp hcovers
  refine ⟨inRanges_of_isLoneSurrogate h (by decide +kernel), ?_,
    inRanges_of_isLoneSurrogate h (by decide +kernel), ?_, ?_⟩
  · have hbases : ∀ base ∈ zeroDigits, base < 0x20000 := by decide +kernel
    have hnone : (zeroDigits.find? fun base => base ≤ c.toNat && c.toNat < base + 10) = none := by
      refine List.find?_eq_none.mpr fun base hmem hholds => ?_
      have hbase := hbases base hmem
      simp only [Bool.and_eq_true, decide_eq_true_eq] at hholds
      omega
    rw [isDecimal, digitValue?, hnone]
    rfl
  · have hrange : (0x3134B, 0xE00FF) ∈ unprintableRanges := by decide +kernel
    have hin : inRanges unprintableRanges c.toNat :=
      inRanges_iff.mpr ⟨_, hrange, CaseRun.covers_iff.mpr (by simp [rangeRun, Nat.mod_one]; omega)⟩
    rw [isPrintable, if_neg (by omega), hin]
    rfl
  · rcases lowerChar_cases c with hsmall | ⟨rfl, -⟩ | ⟨r, hr, hmoves, -⟩
    · exact hsmall
    · exact absurd hfirst (by decide)
    · have hapart : ∀ r ∈ lowerRuns, r.apart standIns := List.all_eq_true.mp (by decide +kernel)
      exact absurd hcovers (CaseRun.not_covers_of_apart (hapart r hr) hmoves)

end DidYouMean.Text
