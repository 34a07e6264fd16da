import DidYouMean.Text.Blank
import Mathlib

/-!
# Trimming white space

## Main definitions

- `IsTrimmed`: a text has no white space at its ends

## Main statements

- `trimChars_of_blanks`, `exists_blanks`: white space around a text is dropped, and nothing else
- `trim_eq_empty_iff`: nothing is left of a text of white space, and of no other one
- `toLower_of_blank`: lower case leaves such a text alone
-/

namespace DidYouMean.Text

variable {s : String} {c : Char}

/-- A text has no white space at its ends. -/
structure IsTrimmed (cs : List Char) : Prop where
  head : ∀ c ∈ cs.head?, isBlank c = false
  last : ∀ c ∈ cs.getLast?, isBlank c = false

theorem isTrimmed_iff {cs : List Char} : IsTrimmed cs ↔
    cs.head?.all (fun c => !isBlank c) ∧ cs.getLast?.all (fun c => !isBlank c) := by
  simp only [Option.all_eq_true, Bool.not_eq_true']
  exact ⟨fun h => ⟨h.head, h.last⟩, fun h => ⟨h.1, h.2⟩⟩

instance : DecidablePred IsTrimmed := fun _ => decidable_of_iff _ isTrimmed_iff.symm

theorem isTrimmed_nil : IsTrimmed [] := ⟨nofun, nofun⟩

theorem dropWhile_of_head? {p : Char → Bool} {cs : List Char} (h : ∀ c ∈ cs.head?, p c = false) :
    cs.dropWhile p = cs := by
  cases cs with
  | nil => rfl
  | cons c cs => exact List.dropWhile_cons_of_neg (by simp [h c rfl])

/-- White space around a text is dropped. -/
theorem trimChars_of_blanks {before cs after : List Char} (hbefore : ∀ c ∈ before, isBlank c)
    (hcs : IsTrimmed cs) (hafter : ∀ c ∈ after, isBlank c) :
    trimChars (before ++ (cs ++ after)) = cs := by
  rw [trimChars, trimWhere, List.dropWhile_append_of_pos hbefore]
  cases cs with
  | nil => rw [List.nil_append, List.dropWhile_eq_nil_iff.mpr hafter]; rfl
  | cons c cs =>
    have hhead : ∀ d ∈ (c :: cs ++ after).head?, isBlank d = false := hcs.head
    have hlast : ∀ d ∈ (c :: cs).reverse.head?, isBlank d = false := by
      rw [List.head?_reverse]
      exact hcs.last
    rw [dropWhile_of_head? hhead, List.reverse_append,
      List.dropWhile_append_of_pos (by simpa using hafter), dropWhile_of_head? hlast,
      List.reverse_reverse]

theorem isBlank_of_head?_dropWhile {cs : List Char} (h : c ∈ (cs.dropWhile isBlank).head?) :
    isBlank c = false := by
  have hhead := List.head?_dropWhile_not isBlank cs
  rw [h] at hhead
  exact hhead

/-- What is dropped at the end of a text. -/
theorem exists_dropWhile_eq (cs : List Char) : ∃ after, (∀ c ∈ after, isBlank c) ∧
    cs.dropWhile isBlank = trimChars cs ++ after := by
  refine ⟨((cs.dropWhile isBlank).reverse.takeWhile isBlank).reverse, ?_, ?_⟩
  · intro c hc
    exact List.mem_takeWhile_imp (List.mem_reverse.mp hc)
  · rw [trimChars, trimWhere, ← List.reverse_append, List.takeWhile_append_dropWhile,
      List.reverse_reverse]

/-- Only white space is dropped. -/
theorem exists_blanks (cs : List Char) : ∃ before after, (∀ c ∈ before, isBlank c) ∧
    (∀ c ∈ after, isBlank c) ∧ cs = before ++ (trimChars cs ++ after) := by
  obtain ⟨after, hafter, hcut⟩ := exists_dropWhile_eq cs
  refine ⟨cs.takeWhile isBlank, after, fun c hc => List.mem_takeWhile_imp hc, hafter, ?_⟩
  rw [← hcut, List.takeWhile_append_dropWhile]

theorem isTrimmed_trimChars (cs : List Char) : IsTrimmed (trimChars cs) where
  head c hc := by
    obtain ⟨after, -, hcut⟩ := exists_dropWhile_eq cs
    have hhead : c ∈ (cs.dropWhile isBlank).head? := by
      rw [hcut, List.head?_append, hc]
      rfl
    exact isBlank_of_head?_dropWhile hhead
  last c hc := by
    rw [trimChars, trimWhere, List.getLast?_reverse] at hc
    exact isBlank_of_head?_dropWhile hc

theorem trimChars_eq_nil_iff {cs : List Char} : trimChars cs = [] ↔ ∀ c ∈ cs, isBlank c := by
  constructor
  · intro h
    obtain ⟨before, after, hbefore, hafter, hcs⟩ := exists_blanks cs
    rw [h, List.nil_append] at hcs
    rw [hcs]
    exact List.forall_mem_append.mpr ⟨hbefore, hafter⟩
  · intro h
    have hnil := trimChars_of_blanks h isTrimmed_nil (List.forall_mem_nil _)
    rwa [List.append_nil, List.append_nil] at hnil

/-- Trimming stops at the first character that is not white space. -/
theorem exists_trimChars_eq_cons {before rest : List Char} (hbefore : ∀ d ∈ before, isBlank d)
    (hc : isBlank c = false) : ∃ more, trimChars (before ++ c :: rest) = c :: more := by
  obtain ⟨after, hafter, hcut⟩ := exists_dropWhile_eq (before ++ c :: rest)
  rw [List.dropWhile_append_of_pos hbefore, List.dropWhile_cons_of_neg (by simp [hc])] at hcut
  cases htrim : trimChars (before ++ c :: rest) with
  | nil =>
    rw [htrim, List.nil_append] at hcut
    have hblank := hafter c (hcut ▸ List.mem_cons_self)
    rw [hc] at hblank
    cases hblank
  | cons d more =>
    rw [htrim] at hcut
    obtain rfl := (List.cons.inj hcut).1
    exact ⟨more, rfl⟩

/-- A text is trimmed to nothing if and only if it is all white space. -/
theorem trim_eq_empty_iff : trim s = "" ↔ ∀ c ∈ s.toList, isBlank c := by
  rw [trim, ← String.toList_inj, String.toList_ofList]
  exact trimChars_eq_nil_iff

/-- No capital letter of ASCII is white space. -/
theorem charToLower_of_blank (h : isBlank c) : c.toLower = c := by
  have hcapital : ∀ n < 26, inRanges blankRanges (65 + n) = false := by decide
  have hother : ¬(c.val ≥ 'A'.val ∧ c.val ≤ 'Z'.val) := by
    rintro ⟨hlow, hhigh⟩
    have hlow : 65 ≤ c.toNat := UInt32.le_iff_toNat_le.mp hlow
    have hhigh : c.toNat ≤ 90 := UInt32.le_iff_toNat_le.mp hhigh
    have hnot := hcapital (c.toNat - 65) (by omega)
    rw [Nat.add_sub_of_le hlow] at hnot
    cases hnot.symm.trans h
  rw [Char.toLower, dif_neg hother]

theorem toLower_of_blank (h : ∀ c ∈ s.toList, isBlank c) : s.toLower = s := by
  rw [← String.toList_inj, String.toLower, String.toList_map]
  exact (List.map_congr_left fun c hc => charToLower_of_blank (h c hc)).trans (List.map_id' _)

end DidYouMean.Text
