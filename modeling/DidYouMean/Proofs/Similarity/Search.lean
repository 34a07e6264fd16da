import DidYouMean.Proofs.Similarity.Bounds
import Mathlib.Logic.Function.Iterate

/-!
# The search for mismatches, place by place

Two places move along the texts while mismatches are counted, one on each text.  The place on the left
text goes from mark to mark, and the place on the right text follows it.  It looks for the next mark
without asking whether the text has come to an end.

## Main definitions

- `Cursor`: the two places, and the mismatches found so far
- `Search`: a search that is under way, at its end, or past the end of a text
- `Cursor.move`, `Search.after`: one move of a search, and where it is after some moves
- `Matching.Balances`: as many characters are marked on either text

## Main statements

- `Cursor.moves_move`: the moves that a search can make
- `Cursor.Moves.outcome_eq`, `Search.outcome_after`: a search comes to the mismatches that are counted
- `Cursor.Moves.isWithin`, `Search.not_underWay_after`: each move goes on in one of the texts, and so
  there are only so many of them
- `Matching.Balances.exists_mismatches`: a search does not run out of marks
- `search_keeps_to_texts`: the search through a matching keeps to the texts and comes to an end

## Design notes

The place on the right text stays within it because a mark is left for it whenever it moves on: the
matching has as many marks on either text.  That is a property of the scan that made the matching, and
the search relies on it.
-/

namespace DidYouMean.Similarity

/-- How far a search has come: a place on each text, and the mismatches found so far. -/
structure Cursor where
  left : Nat
  right : Nat
  found : Nat
  deriving Repr, DecidableEq

/-- A search is under way, or it has found all mismatches, or it has looked past the end of a text. -/
inductive Search where
  | underWay (cursor : Cursor)
  | finished (found : Nat)
  | astray
  deriving Repr, DecidableEq

/-- One move of a search: it passes by a character that is not marked, on the left text or else on the
right one, or it compares two marked characters. -/
def Cursor.move (left right : List Char) (m : Matching) (c : Cursor) : Search :=
  match m.left[c.left]? with
  | none => .finished c.found
  | some false => .underWay { c with left := c.left + 1 }
  | some true =>
    match m.right[c.right]? with
    | none => .astray
    | some false => .underWay { c with right := c.right + 1 }
    | some true =>
      match left[c.left]?, right[c.right]? with
      | some a, some b =>
        .underWay ⟨c.left + 1, c.right + 1, c.found + if a == b then 0 else 1⟩
      | _, _ => .astray

namespace Search

/-- A search one move later, if it is under way. -/
def next (left right : List Char) (m : Matching) : Search → Search
  | .underWay c => c.move left right m
  | s => s

/-- Where a search is after some moves. -/
def after (left right : List Char) (m : Matching) (n : Nat) : Search :=
  (next left right m)^[n] (.underWay ⟨0, 0, 0⟩)

/-- The mismatches that a search comes to: those found, and those in what is left of the texts. -/
def outcome (left right : List Char) (m : Matching) : Search → Option Nat
  | .underWay c =>
    (mismatches (left.drop c.left) (m.left.drop c.left) (right.drop c.right)
      (m.right.drop c.right)).map (c.found + ·)
  | .finished n => some n
  | .astray => none

end Search

/-- A matching has a mark, set or not, for each character of both texts. -/
structure Matching.Covers (m : Matching) (left right : List Char) : Prop where
  length_left : m.left.length = left.length
  length_right : m.right.length = right.length

/-- A matching marks as many characters of either text as it counts, and as many of each character. -/
structure Matching.Balances (m : Matching) (left right : List Char) : Prop
    extends m.Covers left right where
  count_left : m.left.count true = m.count
  count_right : m.right.count true = m.count
  count_char : ∀ c, (left.zip m.left).count (c, true) = (right.zip m.right).count (c, true)

/-- The moves that a search can make through texts with a mark for each character. -/
inductive Cursor.Moves (left right : List Char) (m : Matching) (c : Cursor) : Search → Prop where
  | finish (hend : m.left[c.left]? = none) : Moves left right m c (.finished c.found)
  | passLeft (hleft : m.left[c.left]? = some false) :
      Moves left right m c (.underWay { c with left := c.left + 1 })
  | passRight (hleft : m.left[c.left]? = some true) (hright : m.right[c.right]? = some false) :
      Moves left right m c (.underWay { c with right := c.right + 1 })
  | compare {a b : Char} (hleft : m.left[c.left]? = some true)
      (hright : m.right[c.right]? = some true) (ha : left[c.left]? = some a)
      (hb : right[c.right]? = some b) :
      Moves left right m c
        (.underWay ⟨c.left + 1, c.right + 1, c.found + if a == b then 0 else 1⟩)
  | stray (hleft : m.left[c.left]? = some true) (hright : m.right[c.right]? = none) :
      Moves left right m c .astray

section Moves

variable {left right : List Char} {m : Matching} {c : Cursor} {s : Search}

/-- There is a character where there is a mark. -/
theorem exists_getElem?_of_length_eq {text : List Char} {marks : List Bool} {marked : Bool} {k : Nat}
    (hlength : marks.length = text.length) (hmark : marks[k]? = some marked) :
    ∃ a, text[k]? = some a := by
  obtain ⟨hk, -⟩ := List.getElem?_eq_some_iff.mp hmark
  exact ⟨text[k], List.getElem?_eq_getElem (hlength ▸ hk)⟩

theorem Cursor.moves_move (h : m.Covers left right) (c : Cursor) :
    c.Moves left right m (c.move left right m) := by
  unfold Cursor.move
  cases hleft : m.left[c.left]? with
  | none => exact .finish hleft
  | some marked =>
    cases marked with
    | false => exact .passLeft hleft
    | true =>
      cases hright : m.right[c.right]? with
      | none => exact .stray hleft hright
      | some marked =>
        cases marked with
        | false => exact .passRight hleft hright
        | true =>
          obtain ⟨a, ha⟩ := exists_getElem?_of_length_eq h.length_left hleft
          obtain ⟨b, hb⟩ := exists_getElem?_of_length_eq h.length_right hright
          rw [ha, hb]
          exact .compare hleft hright ha hb

/-- What is left of a row from a place on. -/
theorem drop_eq_cons_of_getElem? {β : Type} {xs : List β} {x : β} {k : Nat} (h : xs[k]? = some x) :
    xs.drop k = x :: xs.drop (k + 1) := by
  obtain ⟨hk, rfl⟩ := List.getElem?_eq_some_iff.mp h
  exact List.drop_eq_getElem_cons hk

/-- No move changes what a search comes to. -/
theorem Cursor.Moves.outcome_eq (h : m.Covers left right) (hmove : c.Moves left right m s) :
    s.outcome left right m = (Search.underWay c).outcome left right m := by
  cases hmove with
  | finish hend =>
    have hdrop : m.left.drop c.left = [] := by simpa using hend
    simp [Search.outcome, hdrop, mismatches]
  | passLeft hleft =>
    obtain ⟨a, ha⟩ := exists_getElem?_of_length_eq h.length_left hleft
    simp [Search.outcome, drop_eq_cons_of_getElem? hleft, drop_eq_cons_of_getElem? ha, mismatches]
  | passRight hleft hright =>
    obtain ⟨a, ha⟩ := exists_getElem?_of_length_eq h.length_left hleft
    obtain ⟨b, hb⟩ := exists_getElem?_of_length_eq h.length_right hright
    simp [Search.outcome, drop_eq_cons_of_getElem? hleft, drop_eq_cons_of_getElem? ha,
      drop_eq_cons_of_getElem? hright, drop_eq_cons_of_getElem? hb, mismatches, nextMarked]
  | compare hleft hright ha hb =>
    simp only [Search.outcome, drop_eq_cons_of_getElem? hleft, drop_eq_cons_of_getElem? ha,
      drop_eq_cons_of_getElem? hright, drop_eq_cons_of_getElem? hb, mismatches, nextMarked, if_true,
      Option.map_map]
    congr 1
    funext rest
    rw [Function.comp_apply, Nat.add_assoc, Nat.add_comm rest]
  | stray hleft hright =>
    obtain ⟨a, ha⟩ := exists_getElem?_of_length_eq h.length_left hleft
    have hdrop : m.right.drop c.right = [] := by simpa using hright
    simp [Search.outcome, drop_eq_cons_of_getElem? hleft, drop_eq_cons_of_getElem? ha, hdrop,
      mismatches, nextMarked]

/-- The places are within the texts, and some moves have been made. -/
structure Cursor.IsWithin (left right : List Char) (n : Nat) (c : Cursor) : Prop where
  left : c.left ≤ left.length
  right : c.right ≤ right.length
  moves : n ≤ c.left + c.right

/-- Each move goes on in one of the texts, up to its end. -/
theorem Cursor.Moves.isWithin (h : m.Covers left right) {n : Nat} {c' : Cursor}
    (hmove : c.Moves left right m (.underWay c')) (hc : c.IsWithin left right n) :
    c'.IsWithin left right (n + 1) := by
  obtain ⟨hleft', hright', hmoves⟩ := hc
  cases hmove with
  | passLeft hleft =>
    obtain ⟨hlt, -⟩ := List.getElem?_eq_some_iff.mp hleft
    have hmoves' : n + 1 ≤ c.left + 1 + c.right := by omega
    exact ⟨h.length_left ▸ hlt, hright', hmoves'⟩
  | passRight hleft hright =>
    obtain ⟨hlt, -⟩ := List.getElem?_eq_some_iff.mp hright
    exact ⟨hleft', h.length_right ▸ hlt, Nat.add_le_add_right hmoves 1⟩
  | compare hleft hright ha hb =>
    obtain ⟨hlt, -⟩ := List.getElem?_eq_some_iff.mp ha
    obtain ⟨hlt', -⟩ := List.getElem?_eq_some_iff.mp hb
    have hmoves' : n + 1 ≤ c.left + 1 + (c.right + 1) := by omega
    exact ⟨hlt, hlt', hmoves'⟩

end Moves

namespace Search

section Runs

variable {left right : List Char} {m : Matching}

theorem after_succ (n : Nat) :
    after left right m (n + 1) = (after left right m n).next left right m :=
  Function.iterate_succ_apply' _ _ _

theorem outcome_next (h : m.Covers left right) (s : Search) :
    (s.next left right m).outcome left right m = s.outcome left right m := by
  cases s with
  | underWay c => exact (c.moves_move h).outcome_eq h
  | finished found => rfl
  | astray => rfl

/-- A search comes to as many mismatches as are counted. -/
theorem outcome_after (h : m.Covers left right) (n : Nat) :
    (after left right m n).outcome left right m = mismatches left m.left right m.right := by
  induction n with
  | zero => simp [after, outcome]
  | succ n ih => rw [after_succ, outcome_next h, ih]

theorem isWithin_after (h : m.Covers left right) {n : Nat} {c : Cursor}
    (hc : after left right m n = .underWay c) : c.IsWithin left right n := by
  induction n generalizing c with
  | zero =>
    obtain rfl : (⟨0, 0, 0⟩ : Cursor) = c := Search.underWay.inj hc
    exact ⟨Nat.zero_le _, Nat.zero_le _, Nat.le_refl _⟩
  | succ n ih =>
    rw [after_succ] at hc
    cases hbefore : after left right m n with
    | underWay c' =>
      rw [hbefore] at hc
      have hmove : c'.Moves left right m (.underWay c) := hc ▸ c'.moves_move h
      exact hmove.isWithin h (ih hbefore)
    | finished found => simp [hbefore, next] at hc
    | astray => simp [hbefore, next] at hc

/-- No search makes more moves than there are characters in the texts. -/
theorem not_underWay_after (h : m.Covers left right) {n : Nat}
    (hn : left.length + right.length < n) (c : Cursor) : after left right m n ≠ .underWay c := by
  intro hc
  obtain ⟨hleft, hright, hmoves⟩ := isWithin_after h hc
  omega

variable {count : Nat}

/-- A search for mismatches that can be counted keeps to the texts. -/
theorem not_astray_after (h : m.Covers left right)
    (hcount : mismatches left m.left right m.right = some count) (n : Nat) :
    after left right m n ≠ .astray := by
  intro hastray
  have hend := (outcome_after h n).trans hcount
  rw [hastray] at hend
  cases hend

/-- It has found them all when it has made a move for each character, and one more. -/
theorem after_eq_finished (h : m.Covers left right)
    (hcount : mismatches left m.left right m.right = some count) {n : Nat}
    (hn : left.length + right.length < n) : after left right m n = .finished count := by
  have hend := (outcome_after h n).trans hcount
  cases hafter : after left right m n with
  | underWay c => exact absurd hafter (not_underWay_after h hn c)
  | finished found =>
    rw [hafter] at hend
    rw [Option.some.inj hend]
  | astray => exact absurd hafter (not_astray_after h hcount n)

end Runs

end Search

section Balance

variable {left right : List Char} {m : Matching}

/-- A search does not run out of marks if there are as many on either text. -/
theorem Matching.Balances.exists_mismatches (h : m.Balances left right) :
    ∃ found, mismatches left m.left right m.right = some found ∧ found ≤ m.count := by
  have hleft : (markedChars left m.left).length = m.count :=
    (length_markedChars h.length_left).trans h.count_left
  have hright : (markedChars right m.right).length = m.count :=
    (length_markedChars h.length_right).trans h.count_right
  refine ⟨_, mismatches_eq _ _ _ _ (hleft.trans hright.symm).le, ?_⟩
  calc ((markedChars left m.left).zip (markedChars right m.right)).countP (fun e => e.1 != e.2)
    _ ≤ ((markedChars left m.left).zip (markedChars right m.right)).length := List.countP_le_length
    _ = m.count := by rw [List.length_zip, hleft, hright, Nat.min_self]

/-- The marked characters of a text are those with a mark that is set. -/
theorem count_markedChars (text : List Char) (marks : List Bool) (c : Char) :
    (markedChars text marks).count c = (text.zip marks).count (c, true) := by
  induction text generalizing marks with
  | nil => simp [markedChars]
  | cons d text ih =>
    cases marks with
    | nil => simp [markedChars]
    | cons marked marks => cases marked <;> simp [markedChars, List.count_cons, ih]

theorem findMatches_balances (left right : List Char) (distance : Int) :
    (findMatches left right distance).Balances left right where
  length_left := length_findMatches_left left right distance
  length_right := length_findMatches_right left right distance
  count_left := findMatches_count_left left right distance
  count_right := findMatches_count_right left right distance
  count_char c := by
    rw [← count_markedChars, ← count_markedChars]
    exact ((perm_markedChars left right distance).count_eq c).symm

/-- The scan marks as many characters of either text as it counts, and as many of each character.  So
the search for mismatches never looks past the end of a text, whatever number of moves it has made, and
it comes to an end; at most every second match is part of a transposition. -/
theorem search_keeps_to_texts (left right : List Char) (distance : Int) :
    (findMatches left right distance).Balances left right ∧
    (∀ n, Search.after left right (findMatches left right distance) n ≠ .astray) ∧
    ∃ found, (∀ n, left.length + right.length < n →
        Search.after left right (findMatches left right distance) n = .finished found) ∧
      transpositions? left right (findMatches left right distance) = some (found / 2) ∧
      2 * (found / 2) ≤ (findMatches left right distance).count := by
  have hbalances := findMatches_balances left right distance
  have hcovers := hbalances.toCovers
  obtain ⟨found, hfound, hle⟩ := hbalances.exists_mismatches
  refine ⟨hbalances, Search.not_astray_after hcovers hfound, found,
    fun n hn => Search.after_eq_finished hcovers hfound hn, ?_, ?_⟩
  · rw [transpositions?, hfound]
    rfl
  · exact (Nat.mul_div_le found 2).trans hle

end Balance

/-- All characters are marked here, so that six moves compare them and one more finds the end. -/
example :
    let left := "MARTHA".toList
    let right := "MARHTA".toList
    Search.after left right (findMatches left right 2) 7 = .finished 2 := by
  decide

end DidYouMean.Similarity
