import DidYouMean.Name.Tokens
import DidYouMean.Proofs.Name.Normal

/-!
# The words of a name, from its text

Where a name is cut into words can be told without cutting it: words are rows of characters without
dividers, with capital letters nowhere but at their beginnings, and nothing but dividers stands around
them.  Where no divider stands between two words, the second begins with a capital letter.  There is
one way to see a name so, and the tokens are its words in lower case.

## Main definitions

- `Word`: a word with the dividers in front of it
- `Cut`: a text as words in a row

## Main statements

- `Cut.nonempty`: every text can be seen so
- `Cut.pieces_eq`: the pieces of a text are the words of any cut
- `exists_cut_tokens`: the tokens are the words of the one cut, in lower case
- `join_tokens`: together the tokens are the normal form without digits
-/

namespace DidYouMean.Name

open Text (Caseless IsSmall capitalSigma lowerChar lowerChars)

variable {c : Char} {cs : List Char}

section Classes

/-- Lower case neither changes decimal digits nor makes any. -/
theorem caseless_isDecimal : Caseless Text.isDecimal := by
  have hranges : Caseless fun c =>
      Text.inRanges (Text.zeroDigits.map fun base => (base, base + 9)) c.toNat :=
    Text.caseless_inRanges (by decide +kernel)
  convert hranges using 2 with c
  rw [Bool.eq_iff_iff, Text.isDecimal, Text.digitValue?, Option.isSome_map, List.find?_isSome]
  simp [Text.inRanges, Nat.lt_succ_iff]

theorem caseless_isDivider : Caseless isDivider :=
  caseless_isSeparator.or caseless_isDecimal

end Classes

/-- A word of a name, with the dividers between it and the word before. -/
structure Word where
  gap : List Char
  letters : List Char
  gap_divides : ∀ c ∈ gap, isDivider c
  letters_ne_nil : letters ≠ []
  undivided : ∀ c ∈ letters, ¬isDivider c
  capital_first : ∀ c ∈ letters.tail, ¬isCapital c

/-- The characters of a word and of the gap in front of it. -/
def Word.chars (w : Word) : List Char :=
  w.gap ++ w.letters

/-- A word that no divider stands in front of begins with a capital letter. -/
def Word.StandsApart (w : Word) : Prop :=
  w.gap = [] → ∃ c ∈ w.letters.head?, isCapital c

/-- A text as words in a row, and the dividers after the last one.  All words but the first stand
apart from the one before. -/
structure Cut (cs : List Char) where
  words : List Word
  rest : List Char
  joined : words.flatMap Word.chars ++ rest = cs
  rest_divides : ∀ c ∈ rest, isDivider c
  apart : ∀ w ∈ words.tail, w.StandsApart

/-- The words of a cut, without the gaps between them. -/
def Cut.pieces (cut : Cut cs) : List (List Char) :=
  cut.words.map (·.letters)

section Pieces

/-- The pieces of a text that are not empty. -/
def solidPieces (cs : List Char) : List (List Char) :=
  (pieces cs).filter fun piece => !piece.isEmpty

/-- A new piece begins in front of the text. -/
def Opens (cs : List Char) : Prop :=
  ∀ c ∈ cs.head?, isDivider c ∨ isCapital c

theorem pieces_ne_nil (cs : List Char) : pieces cs ≠ [] := by
  cases cs with
  | nil => exact List.cons_ne_nil _ _
  | cons c cs =>
    rw [pieces]
    split
    · exact List.cons_ne_nil _ _
    · cases pieces cs with
      | nil => exact List.cons_ne_nil _ _
      | cons piece more =>
        rw [startPiece]
        split <;> exact List.cons_ne_nil _ _

theorem Opens.exists_pieces (h : Opens cs) : ∃ more, pieces cs = [] :: more := by
  cases cs with
  | nil => exact ⟨[], rfl⟩
  | cons c cs =>
    rw [pieces]
    by_cases hc : isDivider c
    · exact ⟨pieces cs, if_pos hc⟩
    · have hcapital : isCapital c := (h c rfl).resolve_left hc
      obtain ⟨piece, more, hpieces⟩ := List.exists_cons_of_ne_nil (pieces_ne_nil cs)
      refine ⟨(c :: piece) :: more, ?_⟩
      rw [if_neg hc, hpieces, startPiece, if_pos hcapital]

/-- Dividers add empty pieces alone. -/
theorem solidPieces_append_of_dividers {gap : List Char} (hgap : ∀ c ∈ gap, isDivider c)
    (cs : List Char) : solidPieces (gap ++ cs) = solidPieces cs := by
  induction gap with
  | nil => rfl
  | cons c gap ih =>
    obtain ⟨hc, hgap⟩ := List.forall_mem_cons.mp hgap
    rw [← ih hgap, solidPieces, List.cons_append, pieces, if_pos hc]
    rfl

/-- Characters that are neither dividers nor capital letters go in front of the first piece. -/
theorem pieces_append_of_plain {xs : List Char} (hdivider : ∀ c ∈ xs, ¬isDivider c)
    (hcapital : ∀ c ∈ xs, ¬isCapital c) {piece : List Char} {more : List (List Char)}
    (hcs : pieces cs = piece :: more) : pieces (xs ++ cs) = (xs ++ piece) :: more := by
  induction xs with
  | nil => exact hcs
  | cons c xs ih =>
    obtain ⟨hc, hdivider⟩ := List.forall_mem_cons.mp hdivider
    obtain ⟨hc', hcapital⟩ := List.forall_mem_cons.mp hcapital
    rw [List.cons_append, pieces, if_neg hc, ih hdivider hcapital, startPiece, if_neg hc']
    rfl

/-- A word in front of a text in front of which a piece begins is a piece of its own. -/
theorem solidPieces_word_append (w : Word) (h : Opens cs) :
    solidPieces (w.letters ++ cs) = w.letters :: solidPieces cs := by
  obtain ⟨more, hmore⟩ := h.exists_pieces
  obtain ⟨c, xs, hletters⟩ := List.exists_cons_of_ne_nil w.letters_ne_nil
  have hundivided := w.undivided
  have hplain := w.capital_first
  rw [hletters] at hundivided hplain ⊢
  obtain ⟨hc, hxs⟩ := List.forall_mem_cons.mp hundivided
  have hpieces := pieces_append_of_plain hxs hplain hmore
  rw [solidPieces, solidPieces, List.cons_append, pieces, if_neg hc, hpieces, hmore, startPiece]
  split <;> simp

end Pieces

namespace Cut

/-- In front of words that stand apart a piece begins. -/
theorem opens_of_standsApart {words : List Word} {rest : List Char}
    (hwords : ∀ w ∈ words, w.StandsApart) (hrest : ∀ c ∈ rest, isDivider c) :
    Opens (words.flatMap Word.chars ++ rest) := by
  intro c hc
  cases words with
  | nil => exact .inl (hrest c (List.mem_of_mem_head? hc))
  | cons w words =>
    rw [List.flatMap_cons, List.append_assoc, Word.chars, List.append_assoc] at hc
    cases hgap : w.gap with
    | cons d gap =>
      rw [hgap, List.cons_append, List.head?_cons, Option.mem_some_iff] at hc
      exact .inl (w.gap_divides c (by simp [hgap, hc]))
    | nil =>
      obtain ⟨d, hd, hcapital⟩ := hwords w List.mem_cons_self hgap
      rw [hgap, List.nil_append, List.head?_append_of_ne_nil _ w.letters_ne_nil] at hc
      exact .inr (Option.mem_unique hc hd ▸ hcapital)

theorem solidPieces_words {words : List Word} {rest : List Char}
    (hwords : ∀ w ∈ words.tail, w.StandsApart) (hrest : ∀ c ∈ rest, isDivider c) :
    solidPieces (words.flatMap Word.chars ++ rest) = words.map (·.letters) := by
  induction words with
  | nil =>
    rw [List.flatMap_nil, List.nil_append, ← List.append_nil rest,
      solidPieces_append_of_dividers hrest]
    rfl
  | cons w words ih =>
    -- only the word in front may not stand apart, and what comes after it opens a piece
    have hlater : ∀ v ∈ words.tail, v.StandsApart := fun v hv => hwords v (List.mem_of_mem_tail hv)
    have hopens : Opens (words.flatMap Word.chars ++ rest) := opens_of_standsApart hwords hrest
    rw [List.flatMap_cons, List.append_assoc, Word.chars, List.append_assoc,
      solidPieces_append_of_dividers w.gap_divides, solidPieces_word_append w hopens, ih hlater,
      List.map_cons]

/-- The pieces of a text are the words of any cut of it. -/
theorem pieces_eq (cut : Cut cs) : cut.pieces = solidPieces cs := by
  rw [pieces, ← solidPieces_words cut.apart cut.rest_divides, cut.joined]

/-- The words of a cut have all characters of the text but the dividers. -/
theorem flatten_pieces (cut : Cut cs) :
    cut.pieces.flatten = cs.filter fun c => !isDivider c := by
  have hword : ∀ w : Word, w.chars.filter (fun c => !isDivider c) = w.letters := by
    intro w
    rw [Word.chars, List.filter_append, List.filter_eq_nil_iff.mpr, List.filter_eq_self.mpr]
    · rfl
    · intro c hc
      simpa using w.undivided c hc
    · intro c hc
      simpa using w.gap_divides c hc
  have hrest : cut.rest.filter (fun c => !isDivider c) = [] :=
    List.filter_eq_nil_iff.mpr fun c hc => by simpa using cut.rest_divides c hc
  conv_rhs => rw [← cut.joined, List.filter_append, hrest, List.append_nil, List.filter_flatMap]
  simp only [hword]
  rw [pieces, List.flatMap_def]

/-- A divider in front of a text belongs to the gap of the first word. -/
theorem nonempty_cons_of_isDivider (cut : Cut cs) (hc : isDivider c) : Nonempty (Cut (c :: cs)) := by
  obtain ⟨words, rest, joined, rest_divides, apart⟩ := cut
  cases words with
  | nil => exact ⟨⟨[], c :: rest, congrArg (c :: ·) joined,
      List.forall_mem_cons.mpr ⟨hc, rest_divides⟩, by simp⟩⟩
  | cons w words =>
    let first : Word := { w with
      gap := c :: w.gap
      gap_divides := List.forall_mem_cons.mpr ⟨hc, w.gap_divides⟩ }
    exact ⟨⟨first :: words, rest, congrArg (c :: ·) joined, rest_divides, apart⟩⟩

/-- A letter in front of a text belongs to the first word, unless that stands apart. -/
theorem nonempty_cons_of_not_isDivider (cut : Cut cs) (hc : ¬isDivider c) :
    Nonempty (Cut (c :: cs)) := by
  obtain ⟨words, rest, joined, rest_divides, apart⟩ := cut
  let single : Word := ⟨[], [c], by simp, by simp, by simpa using hc, by simp⟩
  cases words with
  | nil => exact ⟨⟨[single], rest, congrArg (c :: ·) joined, rest_divides, by simp⟩⟩
  | cons w words =>
    by_cases hw : w.StandsApart
    · exact ⟨⟨single :: w :: words, rest, congrArg (c :: ·) joined, rest_divides,
        List.forall_mem_cons.mpr ⟨hw, apart⟩⟩⟩
    · -- the first word can take the letter in: it has no gap in front, and begins with no capital
      rw [Word.StandsApart, Classical.not_imp, not_exists] at hw
      obtain ⟨hgap, hhead⟩ := hw
      have hplain : ∀ d ∈ w.letters, ¬isCapital d := by
        intro d hd hcapital
        obtain ⟨e, xs, hletters⟩ := List.exists_cons_of_ne_nil w.letters_ne_nil
        rw [hletters] at hd
        rcases List.mem_cons.mp hd with rfl | hd
        · exact hhead d ⟨by simp [hletters], hcapital⟩
        · exact w.capital_first d (by simpa [hletters] using hd) hcapital
      let first : Word :=
        ⟨[], c :: w.letters, by simp, by simp, List.forall_mem_cons.mpr ⟨hc, w.undivided⟩, hplain⟩
      refine ⟨⟨first :: words, rest, ?_, rest_divides, apart⟩⟩
      rw [← joined, List.flatMap_cons, List.flatMap_cons, Word.chars, Word.chars, hgap]
      rfl

/-- Every text can be seen as words in a row. -/
theorem nonempty (cs : List Char) : Nonempty (Cut cs) := by
  induction cs with
  | nil => exact ⟨⟨[], [], rfl, by simp, by simp⟩⟩
  | cons c cs ih =>
    obtain ⟨cut⟩ := ih
    by_cases hc : isDivider c
    · exact cut.nonempty_cons_of_isDivider hc
    · exact cut.nonempty_cons_of_not_isDivider hc

end Cut

section Tokens

/-- The tokens of a name are the words of any cut, in lower case. -/
theorem tokens_eq {s : String} (cut : Cut s.toList) :
    tokens s = cut.pieces.map fun piece => Text.lower (String.ofList piece) := by
  rw [tokens, cut.pieces_eq]
  simp only [Text.lower, String.toList_ofList]
  rfl

/-- Lower case makes no divider of what is none. -/
theorem not_isDivider_of_mem_lowerChars {piece : List Char} (h : ∀ c ∈ piece, ¬isDivider c)
    (hc : c ∈ lowerChars piece) : ¬isDivider c := by
  -- there is nothing to leave out before the word is lowered, and so there is nothing afterwards
  have hkept := caseless_isDivider.filter_lowerGiven (Text.sigmaEnds [] piece) piece
  have hpiece : piece.filter (fun c => !isDivider c) = piece :=
    List.filter_eq_self.mpr fun c hc => by simpa using h c hc
  rw [hpiece, List.filter_eq_self] at hkept
  rw [Text.lowerChars_eq_lowerGiven] at hc
  simpa using hkept c hc

theorem exists_word_of_mem_tokens {s token : String} (htoken : token ∈ tokens s) :
    ∃ w : Word, token.toList = lowerChars w.letters := by
  obtain ⟨cut⟩ := Cut.nonempty s.toList
  rw [tokens_eq cut] at htoken
  obtain ⟨piece, hpiece, rfl⟩ := List.mem_map.mp htoken
  obtain ⟨w, -, rfl⟩ := List.mem_map.mp hpiece
  exact ⟨w, by rw [Text.toList_lower, String.toList_ofList]⟩

theorem ne_empty_of_mem_tokens {s token : String} (htoken : token ∈ tokens s) : token ≠ "" := by
  obtain ⟨w, hw⟩ := exists_word_of_mem_tokens htoken
  rw [Text.lowerChars_eq_lowerGiven] at hw
  rw [Ne, ← String.toList_inj, hw]
  exact Text.lowerGiven_eq_nil_iff.not.mpr w.letters_ne_nil

/-- Tokens have neither dividers nor capital letters of ASCII. -/
theorem plain_of_mem_tokens {s token : String} (htoken : token ∈ tokens s)
    (hc : c ∈ token.toList) : ¬isDivider c ∧ ¬isCapital c := by
  obtain ⟨w, hw⟩ := exists_word_of_mem_tokens htoken
  rw [hw] at hc
  refine ⟨not_isDivider_of_mem_lowerChars w.undivided hc, ?_⟩
  rw [Text.lowerChars_eq_lowerGiven] at hc
  have hsmall : IsSmall c := Text.isSmall_of_mem_lowerGiven hc
  simp [isCapital, hsmall.not_capital]

/-- There is one way to see a name as words in a row, and the tokens are these words in lower case.
Together the words are the name without dividers.  No token is empty or has a divider or a capital
letter of ASCII. -/
theorem exists_cut_tokens (s : String) :
    ∃ cut : Cut s.toList,
      (∀ other : Cut s.toList, other.pieces = cut.pieces) ∧
      tokens s = cut.pieces.map (fun piece => Text.lower (String.ofList piece)) ∧
      cut.pieces.flatten = s.toList.filter (fun c => !isDivider c) ∧
      ∀ token ∈ tokens s, token ≠ "" ∧ ∀ c ∈ token.toList, ¬isDivider c ∧ ¬isCapital c := by
  obtain ⟨cut⟩ := Cut.nonempty s.toList
  refine ⟨cut, fun other => ?_, tokens_eq cut, cut.flatten_pieces, fun token htoken => ?_⟩
  · rw [other.pieces_eq, cut.pieces_eq]
  · exact ⟨ne_empty_of_mem_tokens htoken, fun c hc => plain_of_mem_tokens htoken hc⟩

/-- The normal form without digits, of a name without a capital sigma. -/
theorem filter_normalize (s : String) (hsigma : capitalSigma ∉ s.toList) :
    (normalize s).toList.filter (fun c => !Text.isDecimal c) =
      (s.toList.filter fun c => !isDivider c).flatMap lowerChar := by
  have hbare : (bare s).filter (fun c => !Text.isDecimal c) =
      s.toList.filter fun c => !isDivider c := by
    rw [bare, List.filter_filter]
    refine List.filter_congr fun c _ => ?_
    rw [isDivider, Bool.not_or, Bool.and_comm]
  rw [toList_normalize, caseless_isDecimal.filter_lowerGiven, hbare]
  exact Text.lowerGiven_of_notMem _ fun hmem => hsigma (List.mem_of_mem_filter hmem)

/-- A name without a capital sigma has the same characters in its tokens as in its normal form, but
for the digits. -/
theorem join_tokens (s : String) (hsigma : capitalSigma ∉ s.toList) :
    String.join (tokens s) =
      String.ofList ((normalize s).toList.filter fun c => !Text.isDecimal c) := by
  obtain ⟨cut⟩ := Cut.nonempty s.toList
  have hlower : ∀ piece ∈ cut.pieces,
      (Text.lower (String.ofList piece)).toList = piece.flatMap lowerChar := by
    intro piece hpiece
    rw [Text.toList_lower, String.toList_ofList, Text.lowerChars_eq_lowerGiven]
    refine Text.lowerGiven_of_notMem _ fun hmem => hsigma ?_
    have hmem : capitalSigma ∈ cut.pieces.flatten := List.mem_flatten_of_mem hpiece hmem
    rw [cut.flatten_pieces] at hmem
    exact List.mem_of_mem_filter hmem
  rw [← String.toList_inj, String.toList_ofList, filter_normalize s hsigma, String.toList_join]
  calc (tokens s).flatMap String.toList
      = cut.pieces.flatMap fun piece => (Text.lower (String.ofList piece)).toList := by
        rw [tokens_eq cut, List.flatMap_map]
    _ = cut.pieces.flatMap fun piece => piece.flatMap lowerChar := List.flatMap_congr hlower
    _ = cut.pieces.flatten.flatMap lowerChar := by
        rw [← List.flatMap_id, List.flatMap_assoc]
        rfl
    _ = (s.toList.filter fun c => !isDivider c).flatMap lowerChar := by rw [cut.flatten_pieces]

/-- One letter becomes two characters, and a row of dividers has a digit between two low lines. -/
theorem join_tokens_dotted :
    capitalSigma ∉ "aİB_2_ ÇdE".toList ∧ String.join (tokens "aİB_2_ ÇdE") =
      String.ofList ((normalize "aİB_2_ ÇdE").toList.filter fun c => !Text.isDecimal c) :=
  have hsigma : capitalSigma ∉ "aİB_2_ ÇdE".toList := by decide
  ⟨hsigma, join_tokens _ hsigma⟩

end Tokens

end DidYouMean.Name
