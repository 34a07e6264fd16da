import DidYouMean.Proofs.Text.CaseRuns

/-!
# Lower case

What the lower-case form of a text keeps of it, and what it depends on.  Capital sigmas are the only
characters whose small form depends on others.  Once it is known of each of them whether it ends a
word, a text is lowered character by character.

## Main definitions

- `sigmaEnds`: whether each capital sigma of a text ends a word
- `lowerGiven`: lowers a text of which that is known

## Main statements

- `mem_lower`: of the characters of ASCII, lower case keeps all but the capital letters
- `lowerFrom_eq_lowerGiven`: lower case depends on nothing but the ends of words
- `lowerGiven_inj`: and it shows them
- `Caseless.filter_lowerGiven`: characters without case may be left out before or after
- `lowerGiven_of_isSmall`: lower case changes nothing that it makes
-/

namespace DidYouMean.Text

variable {c d : Char} {cs : List Char}

/-- Of the characters of ASCII only the capital letters have another small form. -/
theorem lowerChar_of_ascii (hascii : c.toNat < 0x80) (hcapital : ('A' ≤ c && c ≤ 'Z') = false) :
    lowerChar c = [c] := by
  rw [lowerChar, if_pos hascii, hcapital]
  rfl

theorem toList_lower (s : String) : (lower s).toList = lowerChars s.toList :=
  String.toList_ofList

theorem mem_lowerFrom (hascii : c.toNat < 0x80) (hcapital : ('A' ≤ c && c ≤ 'Z') = false)
    {cs : List Char} (before : List Char) (hmem : c ∈ cs) : c ∈ lowerFrom before cs := by
  induction cs generalizing before with
  | nil => simp at hmem
  | cons d cs ih =>
    rw [lowerFrom, List.mem_append]
    rcases List.mem_cons.mp hmem with rfl | hmem
    · have hsigma : c ≠ capitalSigma := by
        rintro rfl
        exact absurd hascii (by decide)
      left
      simp [hsigma, lowerChar_of_ascii hascii hcapital]
    · exact .inr (ih _ hmem)

theorem mem_lower (hascii : c.toNat < 0x80) (hcapital : ('A' ≤ c && c ≤ 'Z') = false) {s : String}
    (hmem : c ∈ s.toList) : c ∈ (lower s).toList := by
  rw [toList_lower]
  exact mem_lowerFrom hascii hcapital [] hmem

/-- No capital letter of ASCII is its own small form. -/
theorem IsSmall.not_capital (h : IsSmall c) : ('A' ≤ c && c ≤ 'Z') = false := by
  rw [Bool.eq_false_iff]
  intro hcapital
  have hbounds : 0x41 ≤ c.toNat ∧ c.toNat ≤ 0x5A := by
    simpa [Char.le_def, UInt32.le_iff_toNat_le] using hcapital
  have hnot : c ≠ '\u0130' := by
    rintro rfl
    exact absurd hbounds.2 (by decide)
  rw [IsSmall, lowerChar_eq hnot, mapCode_of_ascii (by omega), if_pos hbounds] at h
  have hcode := congrArg Char.toNat (List.singleton_inj.mp h)
  have hcovers : CaseRun.covers (CaseRun.image ⟨0x41, 0x5A, 1, 32⟩) (c.toNat + 0x20) :=
    CaseRun.covers_image (CaseRun.covers_iff.mpr ⟨hbounds.1, hbounds.2, Nat.mod_one _⟩) (by decide)
  rw [toNat_ofNat_of_covers (by decide) hcovers] at hcode
  omega

section Sigma

/-- The small form of a capital sigma, which ends a word or does not. -/
def smallSigma (ends : Bool) : Char :=
  if ends then '\u03C2' else '\u03C3'

/-- Whether each capital sigma of a text after `before`, which is given nearest character first, ends
a word. -/
def sigmaEnds (before : List Char) : List Char → List Bool
  | [] => []
  | c :: after =>
    if c = capitalSigma then endsWord before after :: sigmaEnds (c :: before) after
    else sigmaEnds (c :: before) after

/-- Lowers a text of which it is known whether each capital sigma ends a word. -/
def lowerGiven : List Bool → List Char → List Char
  | _, [] => []
  | ends, c :: cs =>
    if c = capitalSigma then smallSigma (ends.headD false) :: lowerGiven ends.tail cs
    else lowerChar c ++ lowerGiven ends cs

@[simp]
theorem lowerGiven_nil (ends : List Bool) : lowerGiven ends [] = [] := rfl

theorem lowerGiven_cons_sigma {ends : List Bool} (hc : c = capitalSigma) : lowerGiven ends (c :: cs) =
    smallSigma (ends.headD false) :: lowerGiven ends.tail cs :=
  if_pos hc

theorem lowerGiven_cons {ends : List Bool} (hc : c ≠ capitalSigma) :
    lowerGiven ends (c :: cs) = lowerChar c ++ lowerGiven ends cs :=
  if_neg hc

theorem lowerChar_capitalSigma : lowerChar capitalSigma = [smallSigma false] := rfl

theorem isSmall_smallSigma (ends : Bool) : IsSmall (smallSigma ends) := by
  cases ends <;> rfl

theorem IsSmall.ne_capitalSigma (h : IsSmall c) : c ≠ capitalSigma := by
  rintro rfl
  rw [IsSmall, lowerChar_capitalSigma] at h
  exact absurd h (by decide)

theorem smallSigma_inj {a b : Bool} : smallSigma a = smallSigma b ↔ a = b := by
  revert a b
  decide

theorem length_sigmaEnds (before cs : List Char) :
    (sigmaEnds before cs).length = cs.count capitalSigma := by
  induction cs generalizing before with
  | nil => rfl
  | cons c cs ih =>
    rw [sigmaEnds]
    by_cases hc : c = capitalSigma
    · rw [if_pos hc, List.length_cons, ih, hc, List.count_cons_self]
    · rw [if_neg hc, ih, List.count_cons_of_ne hc]

/-- The lower-case form of a text depends on its capital sigmas alone beyond its characters. -/
theorem lowerFrom_eq_lowerGiven (before cs : List Char) :
    lowerFrom before cs = lowerGiven (sigmaEnds before cs) cs := by
  induction cs generalizing before with
  | nil => rfl
  | cons c cs ih =>
    rw [lowerFrom, sigmaEnds, ih]
    by_cases hc : c = capitalSigma
    · rw [lowerGiven_cons_sigma hc, hc, lowerChar_capitalSigma]
      cases hends : endsWord before cs <;> simp [smallSigma]
    · simp [lowerGiven_cons hc, hc]

theorem lowerChars_eq_lowerGiven (cs : List Char) :
    lowerChars cs = lowerGiven (sigmaEnds [] cs) cs :=
  lowerFrom_eq_lowerGiven [] cs

/-- Two lower-case forms of one text are the same if and only if words end at the same sigmas. -/
theorem lowerGiven_inj {ends ends' : List Bool} (h : ends.length = cs.count capitalSigma)
    (h' : ends'.length = cs.count capitalSigma) :
    lowerGiven ends cs = lowerGiven ends' cs ↔ ends = ends' := by
  induction cs generalizing ends ends' with
  | nil =>
    rw [List.length_eq_zero_iff.mp h, List.length_eq_zero_iff.mp h']
    simp
  | cons c cs ih =>
    by_cases hc : c = capitalSigma
    · rw [hc, List.count_cons_self] at h h'
      obtain ⟨a, ends, rfl⟩ := List.exists_cons_of_length_eq_add_one h
      obtain ⟨b, ends', rfl⟩ := List.exists_cons_of_length_eq_add_one h'
      rw [lowerGiven_cons_sigma hc, lowerGiven_cons_sigma hc]
      dsimp only [List.headD_cons, List.tail_cons]
      rw [List.cons.injEq, List.cons.injEq, smallSigma_inj,
        ih (Nat.succ.inj h) (Nat.succ.inj h')]
    · rw [List.count_cons_of_ne hc] at h h'
      rw [lowerGiven_cons hc, lowerGiven_cons hc, List.append_right_inj, ih h h']

/-- A text without a capital sigma is lowered character by character. -/
theorem lowerGiven_of_notMem (ends : List Bool) (h : capitalSigma ∉ cs) :
    lowerGiven ends cs = cs.flatMap lowerChar := by
  induction cs with
  | nil => rfl
  | cons c cs ih =>
    rw [List.mem_cons, not_or] at h
    rw [lowerGiven_cons (Ne.symm h.1), ih h.2, List.flatMap_cons]

theorem isSmall_of_mem_lowerGiven {ends : List Bool} (hd : d ∈ lowerGiven ends cs) : IsSmall d := by
  induction cs generalizing ends with
  | nil => simp at hd
  | cons c cs ih =>
    by_cases hc : c = capitalSigma
    · rw [lowerGiven_cons_sigma hc] at hd
      rcases List.mem_cons.mp hd with rfl | hd
      · exact isSmall_smallSigma _
      · exact ih hd
    · rw [lowerGiven_cons hc] at hd
      rcases List.mem_append.mp hd with hd | hd
      · exact isSmall_of_mem_lowerChar hd
      · exact ih hd

/-- Lower case changes nothing in a text of small forms. -/
theorem lowerGiven_of_isSmall (ends : List Bool) (h : ∀ c ∈ cs, IsSmall c) :
    lowerGiven ends cs = cs := by
  induction cs with
  | nil => rfl
  | cons c cs ih =>
    obtain ⟨hc, hcs⟩ := List.forall_mem_cons.mp h
    rw [lowerGiven_cons hc.ne_capitalSigma, ih hcs, hc]
    rfl

theorem lowerGiven_eq_nil_iff {ends : List Bool} : lowerGiven ends cs = [] ↔ cs = [] := by
  cases cs with
  | nil => simp
  | cons c cs =>
    by_cases hc : c = capitalSigma
    · simp [lowerGiven_cons_sigma hc]
    · simp [lowerGiven_cons hc, lowerChar_ne_nil]

end Sigma

section Classes

variable {p : Char → Bool}

theorem Caseless.not_smallSigma (hp : Caseless p) (ends : Bool) : ¬p (smallSigma ends) := by
  have hcapital : ¬p capitalSigma := fun h => (hp.isSmall _ h).ne_capitalSigma rfl
  cases ends with
  | true => exact hp.not_final
  | false => exact hp.not_mem capitalSigma hcapital _ (by simp [lowerChar_capitalSigma])

theorem Caseless.filter_lowerChar (hp : Caseless p) (c : Char) :
    (lowerChar c).filter (fun d => !p d) = if p c then [] else lowerChar c := by
  by_cases hc : p c
  · rw [if_pos hc, hp.isSmall c hc]
    simp [hc]
  · rw [if_neg hc, List.filter_eq_self]
    intro d hd
    simpa using hp.not_mem c hc d hd

/-- Characters of a class without case may be left out before a text is lowered or afterwards, as long
as the ends of words are those of the whole text. -/
theorem Caseless.filter_lowerGiven (hp : Caseless p) (ends : List Bool) (cs : List Char) :
    (lowerGiven ends cs).filter (fun c => !p c) = lowerGiven ends (cs.filter fun c => !p c) := by
  induction cs generalizing ends with
  | nil => rfl
  | cons c cs ih =>
    by_cases hc : c = capitalSigma
    · have hnot : ¬p c := fun h => (hp.isSmall c h).ne_capitalSigma hc
      rw [lowerGiven_cons_sigma hc, List.filter_cons_of_pos (by simpa using hp.not_smallSigma _),
        List.filter_cons_of_pos (by simpa using hnot), ih, lowerGiven_cons_sigma hc]
    · rw [lowerGiven_cons hc, List.filter_append, hp.filter_lowerChar, ih]
      by_cases hclass : p c
      · simp [hclass]
      · rw [if_neg hclass, List.filter_cons_of_pos (by simpa using hclass), lowerGiven_cons hc]

end Classes

end DidYouMean.Text
