import DidYouMean.Proofs.Text.Blank
import DidYouMean.Table.Column
import Mathlib

/-!
# Columns of words

A cell without a number in it may still be read as something else than its text: as no value, as an
infinite number or as a truth value.  The last two depend on the other cells of the column.

## Main definitions

- `AreWords`: no cell of a column holds a number
- `HoldsOnly`: all cells of a column that hold a value are from a list of words
- `shown`: a cell of such a column as it is written back

## Main statements

- `areWords_of_leads`: cells that start neither with a digit nor with a sign or a point are words
- `writtenCells_of_words`: how a column of words is written back
- `trim_shown_eq_empty_iff`: a cell is blank there if it holds white space and nothing else
-/

namespace DidYouMean.Table

/-- A number is written in the cell. -/
def IsNumber (cell : String) : Prop :=
  (readWhole? cell).isSome ∨ (readPointed? cell.toList).isSome

/-- No cell of a column holds a number. -/
def AreWords (cells : List String) : Prop :=
  ∀ cell ∈ cells, isMissing cell ∨ ¬IsNumber cell

/-- The words for infinite numbers, in lower case, and how these are written back. -/
def infinityWords : List (String × String) := [
  ("inf", "inf"), ("+inf", "inf"), ("infinity", "inf"), ("+infinity", "inf"), ("-inf", "-inf"),
  ("-infinity", "-inf")]

/-- The words for truth values, in lower case, and how these are written back. -/
def truthWords : List (String × String) :=
  [("true", "True"), ("false", "False")]

/-- How a word of a list is written back, in any case. -/
def wordText? (words : List (String × String)) (cell : String) : Option String :=
  words.lookup cell.toLower

/-- All cells of a column that hold a value are words of a list. -/
def HoldsOnly (words : List (String × String)) (cells : List String) : Prop :=
  ∀ cell ∈ cells, isMissing cell ∨ (wordText? words cell).isSome

instance (words : List (String × String)) (cells : List String) : Decidable (HoldsOnly words cells) :=
  inferInstanceAs (Decidable (∀ cell ∈ cells, isMissing cell ∨ (wordText? words cell).isSome))

/-- A cell of a column of words as it is written back. -/
def shown (cells : List String) (cell : String) : String :=
  if isMissing cell then missingText
  else if HoldsOnly infinityWords cells then (wordText? infinityWords cell).getD cell
  else if HoldsOnly truthWords cells then (wordText? truthWords cell).getD cell
  else cell

section Leads

variable {c : Char} {cs : List Char}

/-- A character may stand at the start of a number, or before it. -/
def isLead (c : Char) : Bool :=
  c.isDigit || c == '-' || c == '+' || c == '.' || isPadding c

theorem isLead_eq_false_iff : isLead c = false ↔
    c.isDigit = false ∧ c ≠ '-' ∧ c ≠ '+' ∧ c ≠ '.' ∧ isPadding c = false := by
  simp [isLead, and_assoc]

theorem splitSign_cons (hminus : c ≠ '-') (hplus : c ≠ '+') :
    splitSign (c :: cs) = (false, c :: cs) := by
  rw [splitSign]
  · exact fun _ heq => hminus (List.cons.inj heq).1
  · exact fun _ heq => hplus (List.cons.inj heq).1

theorem exists_trimWhere_cons {drop : Char → Bool} (cs : List Char) (h : drop c = false) :
    ∃ rest, Text.trimWhere drop (c :: cs) = c :: rest := by
  rw [Text.trimWhere, List.dropWhile_cons_of_neg (by simp [h]), List.reverse_cons,
    List.dropWhile_append]
  split
  · exact ⟨[], by simp [h]⟩
  · exact ⟨(cs.reverse.dropWhile drop).reverse, by simp⟩

theorem readWhole?_eq_none {cell : String} (h : isLead c = false) (hcell : cell.toList = c :: cs) :
    readWhole? cell = none := by
  obtain ⟨hdigit, hminus, hplus, -, hpadding⟩ := isLead_eq_false_iff.mp h
  obtain ⟨rest, hrest⟩ := exists_trimWhere_cons cs hpadding
  rw [readWhole?, hcell, withoutPadding, hrest, splitSign_cons hminus hplus]
  simp [hdigit]

theorem readPointed?_eq_none (h : isLead c = false) : readPointed? (c :: cs) = none := by
  obtain ⟨hdigit, hminus, hplus, hpoint, hpadding⟩ := isLead_eq_false_iff.mp h
  rw [readPointed?, List.dropWhile_cons_of_neg (by simp [hpadding]), splitSign_cons hminus hplus]
  simp [hdigit, hpoint]

/-- Texts that start like a name hold no number, and nothing holds no value. -/
theorem areWords_of_leads {cells : List String}
    (h : ∀ cell ∈ cells, cell.toList.head?.all (!isLead ·)) : AreWords cells := by
  intro cell hcell
  have hfirst := h cell hcell
  cases hchars : cell.toList with
  | nil =>
    rw [String.toList_eq_nil_iff.mp hchars]
    exact .inl (by decide)
  | cons c cs =>
    have hlead : isLead c = false := by simpa [hchars] using hfirst
    right
    rintro (hwhole | hpointed)
    · rw [readWhole?_eq_none hlead hchars] at hwhole
      cases hwhole
    · rw [hchars, readPointed?_eq_none hlead] at hpointed
      cases hpointed

end Leads

section Columns

variable {β : Type} {read? : String → Option β} {write : β → String} {cells : List String}
  {words : List (String × String)} {cell : String}

/-- A column whose cells are read as words of a list is written back as a whole or not at all. -/
theorem writeAll?_eq
    (h : ∀ cell ∈ cells, ¬isMissing cell → (read? cell).map write = wordText? words cell) :
    writeAll? read? write cells =
      if HoldsOnly words cells then
        some (cells.map fun cell =>
          if isMissing cell then missingText else (wordText? words cell).getD cell)
      else none := by
  induction cells with
  | nil => rfl
  | cons cell cells ih =>
    obtain ⟨hcell, hcells⟩ := List.forall_mem_cons.mp h
    have hall : HoldsOnly words (cell :: cells) ↔
        (isMissing cell ∨ (wordText? words cell).isSome) ∧ HoldsOnly words cells :=
      List.forall_mem_cons
    have hrest := ih hcells
    rw [writeAll?] at hrest ⊢
    rw [List.mapM_cons, hrest]
    by_cases hmissing : isMissing cell
    · by_cases hwords : HoldsOnly words cells <;> simp [hmissing, hall, hwords]
    · rw [if_neg hmissing, hcell hmissing]
      by_cases hwords : HoldsOnly words cells <;>
        cases hword : wordText? words cell <;> simp [hmissing, hall, hwords, hword]

/-- Of the words, only those for infinite numbers are read as numbers. -/
theorem readReal?_of_not_isNumber (h : ¬IsNumber cell) :
    (readReal? cell).map Decimal.plain.text = wordText? infinityWords cell := by
  have hpointed : readPointed? cell.toList = none := by
    rw [← Option.not_isSome_iff_eq_none]
    exact fun hsome => h (.inr hsome)
  have hinfinity : Decimal.plain.text (1.0 / 0.0) = "inf" := by rfl
  have hnegative : Decimal.plain.text (-1.0 / 0.0) = "-inf" := by rfl
  rw [readReal?, hpointed, wordText?, infinityWords]
  dsimp only
  split_ifs with hup hdown
  · rw [Option.map_some, hinfinity]
    simp only [List.contains_iff_mem, List.mem_cons, List.not_mem_nil, or_false] at hup
    rcases hup with heq | heq | heq | heq <;> rw [heq] <;> rfl
  · rw [Option.map_some, hnegative]
    simp only [List.contains_iff_mem, List.mem_cons, List.not_mem_nil, or_false] at hdown
    rcases hdown with heq | heq <;> rw [heq] <;> rfl
  · simp only [List.contains_iff_mem, List.mem_cons, List.not_mem_nil, or_false, not_or] at hup hdown
    simp [List.lookup_cons, hup, hdown, beq_false_of_ne]

theorem readTruth?_eq (cell : String) :
    (readTruth? cell).map (fun b => if b then "True" else "False") = wordText? truthWords cell := by
  rw [readTruth?, wordText?, truthWords]
  split_ifs with htrue hfalse
  · rw [htrue]
    rfl
  · rw [hfalse]
    rfl
  · simp [List.lookup_cons, beq_false_of_ne htrue, beq_false_of_ne hfalse]

theorem writtenOthers_of_words (h : AreWords cells) : writtenOthers cells = cells.map (shown cells) := by
  have hreal : ∀ cell ∈ cells, ¬isMissing cell →
      (readReal? cell).map Decimal.plain.text = wordText? infinityWords cell :=
    fun cell hcell hgiven => readReal?_of_not_isNumber ((h cell hcell).resolve_left hgiven)
  rw [writtenOthers, writeAll?_eq hreal, writeAll?_eq fun cell _ _ => readTruth?_eq cell]
  by_cases hinfinity : HoldsOnly infinityWords cells
  · simp [shown, hinfinity]
  · by_cases htruth : HoldsOnly truthWords cells <;>
      simp [shown, writtenTexts, hinfinity, htruth]

theorem writeAll?_of_missing (h : ∀ cell ∈ cells, isMissing cell) :
    writeAll? read? write cells = some (cells.map fun _ => missingText) := by
  have hnothing : HoldsOnly [] cells := fun cell hcell => .inl (h cell hcell)
  have hread : ∀ cell ∈ cells, ¬isMissing cell → (read? cell).map write = wordText? [] cell :=
    fun cell hcell hgiven => absurd (h cell hcell) hgiven
  rw [writeAll?_eq hread, if_pos hnothing]
  exact congrArg some (List.map_congr_left fun cell hcell => if_pos (h cell hcell))

/-- Cells without values are all written in the same way. -/
theorem writtenCells_of_missing (h : ∀ cell ∈ cells, isMissing cell) :
    writtenCells cells = cells.map fun _ => missingText := by
  have hnone : firstOutside? fitsSigned cells = none := by
    rw [firstOutside?, Option.map_eq_none_iff, List.find?_eq_none]
    intro cell hcell
    simp [h cell hcell]
  rw [writtenCells, hnone]
  dsimp only
  rw [writeAll?_of_missing h, writeAll?_of_missing h, ite_self, Option.getD_some]

/-- The first value of a column of words is no whole number. -/
theorem firstOutside?_of_words (h : AreWords cells) (hgiven : ∃ cell ∈ cells, ¬isMissing cell) :
    firstOutside? fitsSigned cells = some none := by
  have hwhole : ∀ cell ∈ cells, ¬isMissing cell → readWhole? cell = none := by
    intro cell hcell hcellGiven
    rw [← Option.not_isSome_iff_eq_none]
    exact fun hsome => (h cell hcell).resolve_left hcellGiven (.inl hsome)
  rw [firstOutside?]
  cases hfirst : cells.find? fun cell => !isMissing cell && !(readWhole? cell).any fitsSigned with
  | none =>
    obtain ⟨cell, hcell, hcellGiven⟩ := hgiven
    have hnot := List.find?_eq_none.mp hfirst cell hcell
    simp [hcellGiven, hwhole cell hcell hcellGiven] at hnot
  | some cell =>
    have hcellGiven := List.find?_some hfirst
    rw [Bool.and_eq_true, Bool.not_eq_true'] at hcellGiven
    rw [Option.map_some, hwhole cell (List.mem_of_find?_eq_some hfirst) (by simp [hcellGiven.1])]

/-- A column of words is written back cell by cell. -/
theorem writtenCells_of_words (h : AreWords cells) :
    writtenCells cells = cells.map (shown cells) := by
  -- a column without any value counts as one of numbers
  by_cases hmissing : ∀ cell ∈ cells, isMissing cell
  · rw [writtenCells_of_missing hmissing]
    refine List.map_congr_left fun cell hcell => ?_
    rw [shown, if_pos (hmissing cell hcell)]
  · push Not at hmissing
    rw [writtenCells, firstOutside?_of_words h hmissing]
    exact writtenOthers_of_words h

end Columns

section Blanks

variable {words : List (String × String)} {cell word : String}

/-- No word of the two lists is white space, and neither is what is written for it. -/
theorem trim_ne_empty_of_word (hwords : words ∈ [infinityWords, truthWords])
    (hword : wordText? words cell = some word) : Text.trim cell ≠ "" ∧ Text.trim word ≠ "" := by
  have hlists : ∀ words ∈ [infinityWords, truthWords], ∀ entry ∈ words,
      Text.trim entry.1 ≠ "" ∧ Text.trim entry.2 ≠ "" := by decide
  obtain ⟨before, after, hsplit, -⟩ := List.lookup_eq_some_iff.mp hword
  have hmem : (cell.toLower, word) ∈ words := by
    rw [hsplit]
    exact List.mem_append_right _ List.mem_cons_self
  obtain ⟨hlower, hwritten⟩ := hlists words hwords _ hmem
  refine ⟨fun hblank => hlower ?_, hwritten⟩
  rw [Text.toLower_of_blank (Text.trim_eq_empty_iff.mp hblank)]
  exact hblank

/-- A cell that holds a value is written as it stands or as a word. -/
theorem shown_cases (cells : List String) (hgiven : ¬isMissing cell) :
    shown cells cell = cell ∨
      ∃ words ∈ [infinityWords, truthWords], wordText? words cell = some (shown cells cell) := by
  have hword : ∀ words, (wordText? words cell).getD cell = cell ∨
      wordText? words cell = some ((wordText? words cell).getD cell) := by
    intro words
    cases wordText? words cell with
    | none => exact .inl rfl
    | some word => exact .inr rfl
  rw [shown, if_neg hgiven]
  split_ifs
  · exact (hword infinityWords).imp_right fun h => ⟨_, by simp, h⟩
  · exact (hword truthWords).imp_right fun h => ⟨_, by simp, h⟩
  · exact .inl rfl

/-- A cell is written as white space if it holds white space, and not if it holds nothing. -/
theorem trim_shown_eq_empty_iff (cells : List String) (cell : String) :
    Text.trim (shown cells cell) = "" ↔ cell ≠ "" ∧ Text.trim cell = "" := by
  by_cases hmissing : isMissing cell
  · have hmissingWords : ∀ word ∈ missingWords, word = "" ∨ Text.trim word ≠ "" := by decide
    have htext : Text.trim missingText ≠ "" := by decide
    rw [shown, if_pos hmissing]
    have hcell := hmissingWords cell (List.contains_iff_mem.mp hmissing)
    simp only [htext, false_iff]
    exact fun ⟨hne, hblank⟩ => hcell.elim hne fun h => h hblank
  · have hne : cell ≠ "" := fun heq => hmissing (by rw [heq]; decide)
    rcases shown_cases cells hmissing with hsame | ⟨words, hwords, hword⟩
    · rw [hsame, and_iff_right hne]
    · obtain ⟨hcell, hshown⟩ := trim_ne_empty_of_word hwords hword
      simp only [hshown, hcell, and_false]

end Blanks

end DidYouMean.Table
