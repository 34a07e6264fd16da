import DidYouMean.Json.Value
import DidYouMean.Proofs.Text.LetterCase

/-!
# Texts of values

Messages show every value but a text with a digit or a sign in it, or as one of a few words.  Lower
case keeps digits and signs.

## Main definitions

- `HasMark`: a text has a digit or a sign in it

## Main statements

- `Value.hasMark_or_word_shown`: how a value that is no text is shown
-/

namespace DidYouMean.Json

/-- A digit or a sign: a character of ASCII that is no letter. -/
def isMark (c : Char) : Bool :=
  c.toNat < 0x80 && !('A' ≤ c && c ≤ 'Z') && !('a' ≤ c && c ≤ 'z')

/-- A digit or a sign is in the text. -/
def HasMark (s : String) : Prop :=
  ∃ c ∈ s.toList, isMark c

namespace HasMark

variable {s t : String}

theorem append_left (h : HasMark s) : HasMark (s ++ t) := by
  obtain ⟨c, hc, hmark⟩ := h
  exact ⟨c, by simp [hc], hmark⟩

theorem append_right (h : HasMark t) : HasMark (s ++ t) := by
  obtain ⟨c, hc, hmark⟩ := h
  exact ⟨c, by simp [hc], hmark⟩

theorem lower (h : HasMark s) : HasMark (Text.lower s) := by
  obtain ⟨c, hc, hmark⟩ := h
  obtain ⟨⟨hascii, hcapital⟩, -⟩ :
      (c.toNat < 0x80 ∧ ('A' ≤ c && c ≤ 'Z') = false) ∧ ('a' ≤ c && c ≤ 'z') = false := by
    simpa only [isMark, Bool.and_eq_true, decide_eq_true_eq, Bool.not_eq_true'] using hmark
  exact ⟨c, Text.mem_lower hascii hcapital hc, hmark⟩

end HasMark

theorem hasMark_natText (n : Nat) : HasMark n.repr := by
  obtain ⟨c, hc⟩ := List.exists_mem_of_ne_nil _ (Nat.toDigits_ne_nil (n := n) (b := 10))
  have hdigit := Nat.isDigit_of_mem_toDigits (by decide) (by decide) hc
  refine ⟨c, by rwa [Nat.toList_repr], ?_⟩
  simp [Char.isDigit, isMark, Char.le_def, UInt32.le_iff_toNat_le] at hdigit ⊢
  omega

theorem hasMark_intText (n : Int) : HasMark (toString n) := by
  rw [Int.toString_eq_repr, Int.repr_eq_if]
  split
  · exact hasMark_natText _
  · exact (hasMark_natText _).append_right

/-- A decimal has a point, or else an exponent with its sign. -/
theorem hasMark_magnitude (l : Decimal.Layout) (s : Decimal.Scientific) :
    HasMark (l.magnitude s) := by
  rw [Decimal.Layout.magnitude]
  dsimp only
  split
  · split
    · exact HasMark.append_left ⟨'.', by decide, rfl⟩
    · exact ⟨'.', by simp, rfl⟩
  · refine HasMark.append_left (HasMark.append_right ?_)
    split
    · exact ⟨'-', by decide, rfl⟩
    · exact ⟨'+', by decide, rfl⟩

theorem hasMark_or_word_realText (l : Decimal.Layout) (x : Float) :
    HasMark (l.text x) ∨ l.text x ∈ ["nan", "inf"] := by
  rw [Decimal.Layout.text]
  split
  · exact .inr (by decide)
  · split
    · exact .inl ⟨'-', by decide, rfl⟩
    · exact .inr (by decide)
  · next b _ =>
    have hmagnitude :
        HasMark (if b.mantissa = 0 then "0.0" else l.magnitude (Decimal.shortest b)) := by
      split
      · exact ⟨'.', by decide, rfl⟩
      · exact hasMark_magnitude l _
    left
    dsimp only
    split
    · exact hmagnitude.append_right
    · exact hmagnitude

/-- What is no text is shown with a digit or a sign, or as one of a few words. -/
theorem Value.hasMark_or_word_shown {v : Value} (hv : ∀ s, v ≠ .text s) :
    HasMark v.shown ∨ v.shown ∈ ["None", "True", "False", "nan", "inf"] := by
  cases v with
  | null => exact .inr (by simp [shown])
  | bool b => cases b <;> exact .inr (by simp [shown])
  | int n =>
    rw [shown]
    exact .inl (hasMark_intText n)
  | real x =>
    rw [shown]
    refine (hasMark_or_word_realText _ x).imp_right fun hword => ?_
    exact List.mem_cons_of_mem _ (List.mem_cons_of_mem _ (List.mem_cons_of_mem _ hword))
  | text s => exact absurd rfl (hv s)
  | list items =>
    rw [shown]
    exact .inl (HasMark.append_left (HasMark.append_left ⟨'[', by decide, rfl⟩))
  | object fields =>
    rw [shown]
    exact .inl (HasMark.append_left (HasMark.append_left ⟨'\x7b', by decide, rfl⟩))

end DidYouMean.Json
