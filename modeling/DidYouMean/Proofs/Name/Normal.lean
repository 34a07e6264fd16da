import DidYouMean.Name.Normal
import DidYouMean.Proofs.Text.LetterCase

/-!
# Normal forms

The normal form of a name has neither capital letters nor separators, and so it is its own normal
form.  Separators are left out of it, but not without a trace: a capital sigma in front of one ends a
word.

## Main definitions

- `bare`: the characters of a name without its separators
- `sigmaEnds`: whether each capital sigma of a name ends a word

## Main statements

- `caseless_isSeparator`: separators have no case
- `toList_normalize`: the normal form in terms of the bare name and the ends of its words
- `normalize_canonical`: normal forms are canonical
- `normalize_eq_iff_of_bare_eq`: when spellings that differ in separators have one normal form
-/

namespace DidYouMean.Name

open Text (Caseless IsSmall capitalSigma lowerGiven)

variable {s t : String}

theorem caseless_lowLine : Caseless (· == '_') := by
  have hrange : Caseless fun c => Text.inRanges [(0x5F, 0x5F)] c.toNat :=
    Text.caseless_inRanges (by decide +kernel)
  convert hrange using 2 with c
  rw [Bool.eq_iff_iff, beq_iff_eq, Text.inRanges_iff, ← Char.toNat_inj]
  simp [Text.CaseRun.covers_iff, Text.rangeRun, Nat.mod_one, Nat.le_antisymm_iff, and_comm]

/-- Lower case neither changes white space nor makes any. -/
theorem caseless_isBlank : Caseless Text.isBlank :=
  Text.caseless_inRanges (by decide +kernel)

theorem caseless_isSeparator : Caseless isSeparator :=
  caseless_lowLine.or caseless_isBlank

/-- The characters of a name without its separators. -/
def bare (s : String) : List Char :=
  s.toList.filter fun c => !isSeparator c

/-- Whether each capital sigma of a name ends a word, separators taken into account. -/
def sigmaEnds (s : String) : List Bool :=
  Text.sigmaEnds [] s.toList

/-- The normal form is the bare name in lower case, with the ends of words that the separators make. -/
theorem toList_normalize (s : String) :
    (normalize s).toList = lowerGiven (sigmaEnds s) (bare s) := by
  rw [normalize, String.toList_ofList, Text.lowerChars_eq_lowerGiven,
    caseless_isSeparator.filter_lowerGiven]
  rfl

theorem isSmall_of_mem_normalize {c : Char} (hc : c ∈ (normalize s).toList) : IsSmall c := by
  rw [toList_normalize] at hc
  exact Text.isSmall_of_mem_lowerGiven hc

theorem not_isSeparator_of_mem_normalize {c : Char} (hc : c ∈ (normalize s).toList) :
    isSeparator c = false := by
  rw [normalize, String.toList_ofList] at hc
  simpa using (List.mem_filter.mp hc).2

/-- Lower case changes nothing in a normal form. -/
theorem lower_normalize (s : String) : Text.lowerChars (normalize s).toList = (normalize s).toList := by
  rw [Text.lowerChars_eq_lowerGiven]
  exact Text.lowerGiven_of_isSmall _ fun c hc => isSmall_of_mem_normalize hc

/-- A normal form is its own normal form and its own lower-case form, and it has no separators. -/
theorem normalize_canonical (s : String) :
    normalize (normalize s) = normalize s ∧
      (∀ c ∈ (normalize s).toList, c ≠ '_' ∧ ¬Text.isBlank c) ∧
      Text.lower (normalize s) = normalize s := by
  refine ⟨?_, fun c hc => ?_, ?_⟩
  · have hbare : (normalize s).toList.filter (fun c => !isSeparator c) = (normalize s).toList :=
      List.filter_eq_self.mpr fun c hc => by simpa using not_isSeparator_of_mem_normalize hc
    rw [normalize, lower_normalize, hbare, String.ofList_toList]
  · have hnot := not_isSeparator_of_mem_normalize hc
    rw [isSeparator, Bool.or_eq_false_iff, beq_eq_false_iff_ne] at hnot
    exact ⟨hnot.1, by simp [hnot.2]⟩
  · rw [Text.lower, lower_normalize, String.ofList_toList]

theorem count_capitalSigma_bare (s : String) :
    (bare s).count capitalSigma = s.toList.count capitalSigma :=
  List.count_filter (by decide)

/-- Spellings that differ in separators alone have one normal form if and only if the same capital
sigmas end words in them. -/
theorem normalize_eq_iff_of_bare_eq (h : bare s = bare t) :
    normalize s = normalize t ↔ sigmaEnds s = sigmaEnds t := by
  rw [← String.toList_inj, toList_normalize, toList_normalize, h]
  refine Text.lowerGiven_inj ?_ ?_
  · rw [sigmaEnds, Text.length_sigmaEnds, ← count_capitalSigma_bare, h]
  · rw [sigmaEnds, Text.length_sigmaEnds, count_capitalSigma_bare]

end DidYouMean.Name
