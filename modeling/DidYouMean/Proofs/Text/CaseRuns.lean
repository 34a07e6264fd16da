import DidYouMean.Text.LetterCase
import Mathlib.Data.List.Basic

/-!
# Runs of letters and their small forms

What the table of small letters says of every character.  The table is a list of runs, and a run
moves its code points to another run.  So it is enough to compare runs with each other, which is a
finite matter, to know that no small letter has a small form other than itself, and that lower case
neither changes nor makes a character of a class that has no letters with case.

## Main definitions

- `CaseRun.image`: the code points that a run moves its own to
- `CaseRun.apart`: two runs have no code point in common
- `IsSmall`: a character is its own small form
- `Caseless`: lower case neither changes the characters of a class nor makes any

## Main statements

- `lowerChar_cases`: a character stays as it is, or is the one that becomes two, or moves with a run
- `isSmall_of_mem_lowerChar`: small forms are their own small forms
- `caseless_inRanges`: ranges of code points that are apart from all runs and their images
-/

namespace DidYouMean.Text

namespace CaseRun

variable {r s : CaseRun} {n : Nat}

/-- The code points that a run moves its own to. -/
def image (r : CaseRun) : CaseRun :=
  ⟨(r.first + r.shift).toNat, (r.last + r.shift).toNat, r.step, -r.shift⟩

/-- No code point is in both runs: one ends before the other begins, or they take turns. -/
def apart (r s : CaseRun) : Bool :=
  -- the comparisons of numbers that the kernel computes itself: there are many runs to compare
  r.last.blt s.first || s.last.blt r.first ||
    ((r.step.beq 2 || r.first.beq r.last) && s.step.beq 2 && !(r.first % 2).beq (s.first % 2))

theorem covers_iff : r.covers n ↔ r.first ≤ n ∧ n ≤ r.last ∧ (n - r.first) % r.step = 0 := by
  simp [covers, and_assoc]

theorem not_covers_of_apart (h : r.apart s) (hr : r.covers n) : ¬s.covers n := by
  rw [covers_iff] at hr ⊢
  rintro ⟨hfirst, hlast, hmod⟩
  simp only [apart, Bool.or_eq_true, Bool.and_eq_true, Bool.not_eq_true', ← Bool.not_eq_true,
    Nat.blt_eq, Nat.beq_eq] at h
  -- runs that take turns have all the code points of one parity
  rcases h with (hbefore | hafter) | ⟨⟨hstep | hone, hstep'⟩, hparity⟩
  · omega
  · omega
  · rw [hstep] at hr
    rw [hstep'] at hmod
    omega
  · rw [hstep'] at hmod
    omega

theorem covers_image (hr : r.covers n) (hpos : 0 ≤ r.first + r.shift) :
    r.image.covers (n + r.shift).toNat := by
  rw [covers_iff] at hr ⊢
  obtain ⟨hfirst, hlast, hmod⟩ := hr
  have hsame : (n + r.shift).toNat - (r.first + r.shift).toNat = n - r.first := by omega
  dsimp only [image]
  rw [hsame]
  exact ⟨by omega, by omega, hmod⟩

end CaseRun

/-- A code point is not moved, or it moves with a run. -/
theorem mapCode_cases (runs : List CaseRun) (n : Nat) :
    (mapCode runs n = n ∧ ∀ r ∈ runs, ¬r.covers n) ∨
      ∃ r ∈ runs, r.covers n ∧ mapCode runs n = (n + r.shift).toNat := by
  rw [mapCode]
  cases hfind : runs.find? (·.covers n) with
  | none => exact .inl ⟨rfl, List.find?_eq_none.mp hfind⟩
  | some r =>
    have hcovers := List.find?_some hfind
    exact .inr ⟨r, List.mem_of_find?_eq_some hfind, hcovers, rfl⟩

section SmallForms

variable {c d : Char} {r : CaseRun}

/-- The code points between those of characters. -/
def surrogates : CaseRun := ⟨0xD800, 0xDFFF, 1, 0⟩

/-- The capital letter that becomes two characters. -/
def dottedCapital : CaseRun := ⟨0x130, 0x130, 1, 0⟩

/-- A run moves its code points to characters, and lower case moves none of these. -/
def CaseRun.movesToSmall (r : CaseRun) : Bool :=
  0 ≤ r.first + r.shift && r.image.last < 0x110000 && r.image.apart surrogates &&
    r.image.apart dottedCapital && lowerRuns.all r.image.apart

theorem CaseRun.movesToSmall_iff : r.movesToSmall ↔
    (0 ≤ r.first + r.shift ∧ r.image.last < 0x110000) ∧
      (r.image.apart surrogates ∧ r.image.apart dottedCapital) ∧
      ∀ s ∈ lowerRuns, r.image.apart s := by
  simp only [movesToSmall, Bool.and_eq_true, decide_eq_true_eq, List.all_eq_true, and_assoc]

theorem movesToSmall_of_mem : ∀ r ∈ lowerRuns, r.movesToSmall :=
  List.all_eq_true.mp (by decide +kernel)

/-- What a code point of a run moves to is the code point of a character. -/
theorem toNat_ofNat_of_covers (hr : r ∈ lowerRuns) {n : Nat} (hn : r.image.covers n) :
    (Char.ofNat n).toNat = n := by
  obtain ⟨⟨-, hlast⟩, ⟨hsurrogates, -⟩, -⟩ :=
    CaseRun.movesToSmall_iff.mp (movesToSmall_of_mem r hr)
  have hnot := CaseRun.not_covers_of_apart hsurrogates hn
  rw [CaseRun.covers_iff] at hn hnot
  dsimp only [surrogates] at hnot
  have hvalid : n.isValidChar := by
    rw [Nat.isValidChar]
    omega
  rw [Char.ofNat, dif_pos hvalid]
  rfl

theorem eq_of_first_lt : ∀ r ∈ lowerRuns, r.first < 0x80 → r = ⟨0x41, 0x5A, 1, 32⟩ := by
  decide +kernel

/-- The table has the small letters of ASCII, too. -/
theorem mapCode_of_ascii {n : Nat} (hn : n < 0x80) :
    mapCode lowerRuns n = if 0x41 ≤ n ∧ n ≤ 0x5A then n + 0x20 else n := by
  rcases mapCode_cases lowerRuns n with ⟨hmap, hnone⟩ | ⟨r, hr, hcovers, hmap⟩
  · have hfirst := hnone ⟨0x41, 0x5A, 1, 32⟩ (by decide)
    rw [CaseRun.covers_iff] at hfirst
    rw [hmap, if_neg]
    rintro ⟨hle, hle'⟩
    exact hfirst ⟨hle, hle', Nat.mod_one _⟩
  · rw [CaseRun.covers_iff] at hcovers
    obtain rfl := eq_of_first_lt r hr (by omega)
    rw [hmap, if_pos ⟨hcovers.1, hcovers.2.1⟩]
    rfl

theorem lowerChar_eq (hc : c ≠ '\u0130') :
    lowerChar c = [Char.ofNat (mapCode lowerRuns c.toNat)] := by
  by_cases hascii : c.toNat < 0x80
  · have hcapital : ('A' ≤ c && c ≤ 'Z') = decide (0x41 ≤ c.toNat ∧ c.toNat ≤ 0x5A) := by
      rw [Bool.decide_and]
      rfl
    rw [lowerChar, if_pos hascii, mapCode_of_ascii hascii, hcapital]
    by_cases h : 0x41 ≤ c.toNat ∧ c.toNat ≤ 0x5A <;> simp [h]
  · rw [lowerChar, if_neg hascii, if_neg hc]

/-- A character is its own small form. -/
def IsSmall (c : Char) : Prop :=
  lowerChar c = [c]

instance : DecidablePred IsSmall :=
  fun c => inferInstanceAs (Decidable (lowerChar c = [c]))

theorem isSmall_of_not_covers (hc : c ≠ '\u0130') (h : ∀ r ∈ lowerRuns, ¬r.covers c.toNat) :
    IsSmall c := by
  rw [IsSmall, lowerChar_eq hc]
  rcases mapCode_cases lowerRuns c.toNat with ⟨hmap, -⟩ | ⟨r, hr, hcovers, -⟩
  · rw [hmap, Char.ofNat_toNat]
  · exact absurd hcovers (h r hr)

/-- A character stays as it is, or it is the capital letter that becomes two characters, or it moves
with a run. -/
theorem lowerChar_cases (c : Char) : IsSmall c ∨ (c = '\u0130' ∧ lowerChar c = ['i', '\u0307']) ∨
    ∃ r ∈ lowerRuns, r.covers c.toNat ∧ ∃ d, lowerChar c = [d] ∧ r.image.covers d.toNat := by
  by_cases hc : c = '\u0130'
  · subst hc
    exact .inr (.inl ⟨rfl, rfl⟩)
  rcases mapCode_cases lowerRuns c.toNat with ⟨-, hnone⟩ | ⟨r, hr, hcovers, hmap⟩
  · exact .inl (isSmall_of_not_covers hc hnone)
  · obtain ⟨⟨hnonneg, -⟩, -⟩ := CaseRun.movesToSmall_iff.mp (movesToSmall_of_mem r hr)
    have himage := CaseRun.covers_image hcovers hnonneg
    refine .inr (.inr ⟨r, hr, hcovers, Char.ofNat (c.toNat + r.shift).toNat, ?_, ?_⟩)
    · rw [lowerChar_eq hc, hmap]
    · rwa [toNat_ofNat_of_covers hr himage]

theorem lowerChar_ne_nil (c : Char) : lowerChar c ≠ [] := by
  rcases lowerChar_cases c with h | ⟨-, h⟩ | ⟨r, -, -, d, h, -⟩
  all_goals
    rw [h]
    exact List.cons_ne_nil _ _

/-- Small forms are their own small forms. -/
theorem isSmall_of_mem_lowerChar (hd : d ∈ lowerChar c) : IsSmall d := by
  rcases lowerChar_cases c with h | ⟨-, h⟩ | ⟨r, hr, -, e, h, himage⟩
  · rw [h, List.mem_singleton] at hd
    rwa [hd]
  · rw [h] at hd
    rcases List.mem_pair.mp hd with rfl | rfl <;> rfl
  · rw [h, List.mem_singleton] at hd
    subst hd
    obtain ⟨-, ⟨-, hdotted⟩, hruns⟩ := CaseRun.movesToSmall_iff.mp (movesToSmall_of_mem r hr)
    refine isSmall_of_not_covers ?_ fun s hs => CaseRun.not_covers_of_apart (hruns s hs) himage
    rintro rfl
    exact CaseRun.not_covers_of_apart hdotted himage (by decide)

end SmallForms

section Classes

variable {p q : Char → Bool} {c : Char}

/-- Lower case neither changes the characters of a class nor makes any of them. -/
structure Caseless (p : Char → Bool) : Prop where
  isSmall : ∀ c, p c → IsSmall c
  not_mem : ∀ c, ¬p c → ∀ d ∈ lowerChar c, ¬p d
  not_final : ¬p '\u03C2'

theorem Caseless.or (hp : Caseless p) (hq : Caseless q) : Caseless fun c => p c || q c where
  isSmall c h := (Bool.or_eq_true_iff.mp h).elim (hp.isSmall c) (hq.isSmall c)
  not_mem c h d hd := by
    rw [Bool.or_eq_true, not_or] at h ⊢
    exact ⟨hp.not_mem c h.1 d hd, hq.not_mem c h.2 d hd⟩
  not_final := by
    rw [Bool.or_eq_true, not_or]
    exact ⟨hp.not_final, hq.not_final⟩

/-- A range of code points as a run that moves nothing. -/
def rangeRun (range : Nat × Nat) : CaseRun := ⟨range.1, range.2, 1, 0⟩

/-- A range has none of the letters that lower case changes, and none that it makes. -/
def isApartFromCase (range : Nat × Nat) : Bool :=
  !(rangeRun range).covers 0x130 && !(rangeRun range).covers 0x69 &&
    !(rangeRun range).covers 0x307 && !(rangeRun range).covers 0x3C2 &&
    lowerRuns.all fun r => r.apart (rangeRun range) && r.image.apart (rangeRun range)

theorem inRanges_iff {ranges : List (Nat × Nat)} {n : Nat} :
    inRanges ranges n ↔ ∃ range ∈ ranges, (rangeRun range).covers n := by
  simp [inRanges, CaseRun.covers_iff, rangeRun, Nat.mod_one]

/-- Ranges that are apart from all runs and their images are a class that lower case keeps. -/
theorem caseless_inRanges {ranges : List (Nat × Nat)} (h : ranges.all isApartFromCase) :
    Caseless fun c => inRanges ranges c.toNat := by
  have happart : ∀ range ∈ ranges, isApartFromCase range := List.all_eq_true.mp h
  simp only [isApartFromCase, Bool.and_eq_true, Bool.not_eq_true', List.all_eq_true] at happart
  refine ⟨fun c hc => ?_, fun c hc d hd hin => ?_, fun hin => ?_⟩
  · obtain ⟨range, hmem, hcovers⟩ := inRanges_iff.mp hc
    obtain ⟨⟨⟨⟨hdotted, -⟩, -⟩, -⟩, hruns⟩ := happart range hmem
    rcases lowerChar_cases c with hsmall | ⟨rfl, -⟩ | ⟨r, hr, hc, -⟩
    · exact hsmall
    · exact absurd hcovers (by simpa using hdotted)
    · exact absurd hcovers (CaseRun.not_covers_of_apart (hruns r hr).1 hc)
  · obtain ⟨range, hmem, hcovers⟩ := inRanges_iff.mp hin
    obtain ⟨⟨⟨⟨-, hi⟩, hdot⟩, -⟩, hruns⟩ := happart range hmem
    rcases lowerChar_cases c with hsmall | ⟨-, hlower⟩ | ⟨r, hr, -, e, hlower, himage⟩
    · rw [hsmall, List.mem_singleton] at hd
      exact hc (hd ▸ hin)
    · rw [hlower] at hd
      rcases List.mem_pair.mp hd with rfl | rfl
      · exact absurd hcovers (by simpa using hi)
      · exact absurd hcovers (by simpa using hdot)
    · rw [hlower, List.mem_singleton] at hd
      subst hd
      exact CaseRun.not_covers_of_apart (hruns r hr).2 himage hcovers
  · obtain ⟨range, hmem, hcovers⟩ := inRanges_iff.mp hin
    obtain ⟨⟨-, hfinal⟩, -⟩ := happart range hmem
    exact absurd hcovers (by simpa using hfinal)

end Classes

end DidYouMean.Text
