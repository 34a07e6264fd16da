/-!
# Splitting at a character
-/

namespace DidYouMean.Text

/-- The parts of a text between the separators; there is always one at least. -/
def splitAt (separator : Char) : List Char → List (List Char)
  | [] => [[]]
  | c :: rest =>
    if c = separator then [] :: splitAt separator rest
    else match splitAt separator rest with
      | part :: more => (c :: part) :: more
      | [] => [[c]]

/-- A text has one part more than separators. -/
theorem length_splitAt (separator : Char) (cs : List Char) :
    (splitAt separator cs).length = cs.count separator + 1 := by
  induction cs with
  | nil => rfl
  | cons c rest ih =>
    unfold splitAt
    split
    · next h => simp [h, ih]
    · next h =>
      have hc : (c :: rest).count separator = rest.count separator :=
        List.count_cons_of_ne h
      split
      · next part more hs => simpa [hs, hc] using ih
      · next hs => simp [hs] at ih

end DidYouMean.Text
