import DidYouMean.Proofs.Score.Double
import DidYouMean.Proofs.Similarity.Marks
import DidYouMean.Similarity.Jaro
import Mathlib.Data.List.Zip

/-!
# Symmetry of the similarities

The Jaro and Jaro-Winkler similarities do not depend on which of the two texts is scanned.

## Main definitions

- `markedChars`: the marked characters of a text

## Main statements

- `mismatches_eq`: mismatches are places where the rows of marked characters differ
- `similarity_comm`: matchings, transpositions and similarities from either text
-/

namespace DidYouMean.Similarity

/-- The marked characters of a text, in order. -/
def markedChars : List Char → List Bool → List Char
  | c :: text, marked :: marks => if marked then c :: markedChars text marks
    else markedChars text marks
  | _, _ => []

section Marked

variable {text : List Char} {marks : List Bool}

theorem markedChars_eq_nil_of_short (hshort : ∀ c text' marked marks',
    text = c :: text' → marks = marked :: marks' → False) : markedChars text marks = [] := by
  cases text with
  | nil => rfl
  | cons c text =>
    cases marks with
    | nil => rfl
    | cons marked marks => exact (hshort c text marked marks rfl rfl).elim

theorem length_markedChars (hlength : marks.length = text.length) :
    (markedChars text marks).length = marks.count true := by
  induction text generalizing marks with
  | nil => simp [markedChars, List.length_eq_zero_iff.mp hlength]
  | cons c text ih =>
    cases marks with
    | nil => simp at hlength
    | cons marked marks =>
      have ih := ih (Nat.succ.inj hlength)
      cases marked <;> simp [markedChars, ih]

/-- The next marked character is the head of the row. -/
theorem markedChars_of_nextMarked {text' : List Char} {marks' : List Bool} {c : Char}
    (hnext : nextMarked text marks = some (c, text', marks')) :
    markedChars text marks = c :: markedChars text' marks' := by
  fun_induction nextMarked text marks with
  | case1 d text marks =>
    obtain ⟨rfl, rfl, rfl⟩ : d = c ∧ text = text' ∧ marks = marks' := by simpa using hnext
    rfl
  | case2 d text marked marks hnot ih => simp [markedChars, hnot, ih hnext]
  | case3 text marks hshort => simp at hnext

theorem markedChars_of_nextMarked_none (hnext : nextMarked text marks = none) :
    markedChars text marks = [] := by
  fun_induction nextMarked text marks with
  | case1 d text marks => simp at hnext
  | case2 d text marked marks hnot ih => simp [markedChars, hnot, ih hnext]
  | case3 text marks hshort => exact markedChars_eq_nil_of_short hshort

end Marked

/-- The mismatches are the places at which the rows of marked characters differ. -/
theorem mismatches_eq (left : List Char) (marks : List Bool) (right : List Char)
    (rightMarks : List Bool)
    (hle : (markedChars left marks).length ≤ (markedChars right rightMarks).length) :
    mismatches left marks right rightMarks =
      some (((markedChars left marks).zip (markedChars right rightMarks)).countP
        fun e => e.1 != e.2) := by
  fun_induction mismatches left marks right rightMarks with
  | case1 c left marks right rightMarks d right' rightMarks' hnext ih =>
    rw [markedChars_of_nextMarked hnext] at hle ⊢
    rw [ih (Nat.le_of_succ_le_succ hle)]
    by_cases hcd : c = d <;> simp [markedChars, hcd]
  | case2 c left marks right rightMarks hnext =>
    -- the right text does not run out of marked characters first
    rw [markedChars_of_nextMarked_none hnext] at hle
    simp [markedChars] at hle
  | case3 c left marked marks right rightMarks hnot ih =>
    have hskip : markedChars (c :: left) (marked :: marks) = markedChars left marks := by
      simp [markedChars, hnot]
    rw [hskip] at hle ⊢
    exact ih hle
  | case4 left marks right rightMarks hshort =>
    rw [markedChars_eq_nil_of_short hshort]
    rfl

section Texts

variable (left right : List Char) (distance : Int)

/-- The marked characters of both texts, place by place. -/
def markedPairs : List (Char × Char) :=
  (markedChars left (findMatches left right distance).left).zip
    (markedChars right (findMatches left right distance).right)

theorem transpositions?_findMatches :
    transpositions? left right (findMatches left right distance) =
      some (((markedPairs left right distance).countP fun e => e.1 != e.2) / 2) := by
  have hlength : (markedChars left (findMatches left right distance).left).length =
      (markedChars right (findMatches left right distance).right).length := by
    rw [length_markedChars (length_findMatches_left left right distance),
      length_markedChars (length_findMatches_right left right distance),
      findMatches_count_left, findMatches_count_right]
  rw [transpositions?, mismatches_eq _ _ _ _ (Nat.le_of_eq hlength)]
  rfl

/-- There are as many transpositions from either text. -/
theorem transpositions?_swap :
    transpositions? right left (findMatches right left distance) =
      transpositions? left right (findMatches left right distance) := by
  have hpairs : markedPairs right left distance =
      (markedPairs left right distance).map Prod.swap := by
    rw [markedPairs, markedPairs, List.zip_swap, findMatches_swap left right]
    rfl
  have hcount : (markedPairs right left distance).countP (fun e => e.1 != e.2) =
      (markedPairs left right distance).countP fun e => e.1 != e.2 := by
    rw [hpairs, List.countP_map]
    exact List.countP_congr fun e _ => by simp [ne_comm]
  rw [transpositions?_findMatches, transpositions?_findMatches, hcount]

theorem matchDistance_comm : matchDistance left right = matchDistance right left := by
  rw [matchDistance, matchDistance, Nat.max_comm]

theorem sharedLead_comm : sharedLead left right = sharedLead right left := by
  fun_induction sharedLead left right with
  | case1 a left right ih => simp [sharedLead, ih]
  | case2 a left b right hne => simp [sharedLead, Ne.symm hne]
  | case3 left right hshort =>
    cases left with
    | nil => cases right <;> rfl
    | cons a left =>
      cases right with
      | nil => rfl
      | cons b right => exact (hshort a left b right rfl rfl).elim

end Texts

section Scores

variable {α : Type} [Arith α]

/-- The Jaro similarity does not depend on which text comes first, if the two shares of matched
characters can be added in any order. -/
theorem jaro_comm (comm : ∀ m a b : Nat, (ratio m a + ratio m b : α) = ratio m b + ratio m a)
    (left right : List Char) : (jaro left right : α) = jaro right left := by
  have hscore : ∀ m t a b : Nat, (matchScore m t a b : α) = matchScore m t b a := by
    intro m t a b
    rw [matchScore, matchScore, comm m a b]
  have hfound := findMatches_swap left right (matchDistance left right)
  have htranspositions := transpositions?_swap left right (matchDistance left right)
  have hcount : (findMatches right left (matchDistance left right)).count =
      (findMatches left right (matchDistance left right)).count := by
    rw [hfound]
    rfl
  rw [jaro, jaro, matchDistance_comm right left]
  simp only [hcount, htranspositions, Bool.or_comm right.isEmpty, eq_comm (a := right)]
  rw [hscore]

theorem jaroWinkler_comm
    (comm : ∀ m a b : Nat, (ratio m a + ratio m b : α) = ratio m b + ratio m a)
    (left right : List Char) : (jaroWinkler left right : α) = jaroWinkler right left := by
  rw [jaroWinkler, jaroWinkler, jaro_comm comm left right, sharedLead_comm]

/-- Scanning either text gives the same matching with the marks swapped, at any distance, and as many
transpositions.  Both similarities are symmetric, if the two shares of matched characters can be
added in any order. -/
theorem similarity_comm (left right : List Char) :
    (∀ distance, findMatches right left distance = (findMatches left right distance).swap ∧
      transpositions? right left (findMatches right left distance) =
        transpositions? left right (findMatches left right distance)) ∧
    ((∀ m a b : Nat, (ratio m a + ratio m b : α) = ratio m b + ratio m a) →
      (jaro left right : α) = jaro right left ∧
        (jaroWinkler left right : α) = jaroWinkler right left) :=
  ⟨fun distance => ⟨findMatches_swap left right distance, transpositions?_swap left right distance⟩,
    fun comm => ⟨jaro_comm comm left right, jaroWinkler_comm comm left right⟩⟩

/-- Doubles can be added in any order. -/
theorem similarity_comm_martha :
    (∀ m a b : Nat, (ratio m a + ratio m b : Float) = ratio m b + ratio m a) ∧
      (jaro "MARTHA".toList "MARHTA".toList : Float) = jaro "MARHTA".toList "MARTHA".toList ∧
      (jaroWinkler "MARTHA".toList "MARHTA".toList : Float) =
        jaroWinkler "MARHTA".toList "MARTHA".toList := by
  have comm : ∀ m a b : Nat, (ratio m a + ratio m b : Float) = ratio m b + ratio m a :=
    fun _ _ _ => double_add_comm _ _
  exact ⟨comm, (similarity_comm _ _).2 comm⟩

end Scores

end DidYouMean.Similarity
