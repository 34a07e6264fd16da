import DidYouMean.Text.Utf8
import Mathlib

/-!
# Decoding what was encoded

The bytes of a text are decoded to its characters.  A file that is read chunk by chunk may be cut
within a character; what is left of it goes before the next chunk.

## Main definitions

- `Opens`: two bytes begin a character of some width
- `Spells`: a first byte and more make up a character
- `IsUnfinished`: some bytes begin a character, and more of them are needed

## Main statements

- `encode_eq_flatMap`: a text is encoded character by character
- `exists_spells`: what a character is encoded to is decoded to it
- `decodeFrom_flatMap`: characters are decoded one after the other, up to an unfinished one
- `exists_cut`: bytes that are cut anywhere are whole characters and an unfinished one
- `decodeInChunks_encode`: wherever the chunks end, the whole text is decoded
-/

namespace DidYouMean.Text

section Bytes

theorem toList_toByteArray (bytes : List UInt8) : bytes.toByteArray.toList = bytes := by
  have hloop : ∀ (array : ByteArray) (i : Nat) (done : List UInt8),
      ByteArray.toList.loop array i done = done.reverse ++ array.data.toList.drop i := by
    intro array i done
    fun_induction ByteArray.toList.loop array i done with
    | case1 i done h ih =>
      have hi : i < array.data.toList.length := h
      rw [ih, List.drop_eq_getElem_cons hi]
      simp [ByteArray.get!, h]
    | case2 i done h =>
      rw [List.drop_eq_nil_of_le (Nat.le_of_not_lt h), List.append_nil]
  rw [ByteArray.toList, hloop, List.toList_data_toByteArray]
  rfl

/-- A text is encoded character by character. -/
theorem encode_eq_flatMap (s : String) : encode s = s.toList.flatMap String.utf8EncodeChar := by
  have hbytes : (String.ofList s.toList).toUTF8 =
      (s.toList.flatMap String.utf8EncodeChar).toByteArray := by
    rw [String.toUTF8_eq_toByteArray, String.toByteArray_ofList]
    rfl
  rw [String.ofList_toList] at hbytes
  rw [encode, hbytes, toList_toByteArray]

/-- The low six bits of a number, as a continuation byte. -/
def continuation (n : Nat) : UInt8 :=
  .ofNat (n % 64 + 128)

theorem toNat_continuation (n : Nat) : (continuation n).toNat = n % 64 + 128 :=
  UInt8.toNat_ofNat_of_lt' (show n % 64 + 128 < 256 by omega)

@[simp]
theorem isContinuation_continuation (n : Nat) : isContinuation (continuation n) = true := by
  simp only [isContinuation, Bool.and_eq_true, decide_eq_true_eq, UInt8.le_iff_toNat_le,
    toNat_continuation, UInt8.reduceToNat]
  omega

@[simp]
theorem sixBits_continuation (n : Nat) : sixBits (continuation n) = n % 64 := by
  rw [sixBits, toNat_continuation]
  omega

end Bytes

/-- Two bytes begin a character of some width, more than one. -/
structure Opens (first second : UInt8) (width : Nat) : Prop where
  not_lt : ¬first < 0x80
  isFirst : (first < 0xC2 || 0xF4 < first) = false
  isSecond : ((secondByteRange first).1 ≤ second && second ≤ (secondByteRange first).2) = true
  width_eq : (if first < 0xE0 then 2 else if first < 0xF0 then 3 else 4) = width

/-- The first byte tells the width.  Four first bytes leave less room for the second one. -/
theorem opens_of_toNat {first second : UInt8} {b width : Nat} (hb : first.toNat = b)
    (hlow : 0xC2 ≤ b) (hhigh : b ≤ 0xF4) (hsecond : 0x80 ≤ second.toNat ∧ second.toNat ≤ 0xBF)
    (hthree : b = 0xE0 → 0xA0 ≤ second.toNat) (hsurrogate : b = 0xED → second.toNat ≤ 0x9F)
    (hfour : b = 0xF0 → 0x90 ≤ second.toNat) (hlast : b = 0xF4 → second.toNat ≤ 0x8F)
    (hwidth : b < 0xE0 ∧ width = 2 ∨ 0xE0 ≤ b ∧ b < 0xF0 ∧ width = 3 ∨ 0xF0 ≤ b ∧ width = 4) :
    Opens first second width where
  not_lt := by
    simp only [UInt8.lt_iff_toNat_lt, UInt8.reduceToNat, hb]
    omega
  isFirst := by
    simp only [Bool.or_eq_false_iff, decide_eq_false_iff_not, UInt8.lt_iff_toNat_lt,
      UInt8.reduceToNat, hb]
    omega
  isSecond := by
    simp only [secondByteRange, ← UInt8.toNat_inj, Bool.and_eq_true, decide_eq_true_eq,
      UInt8.le_iff_toNat_le, UInt8.reduceToNat, hb]
    split_ifs <;> simp only [UInt8.reduceToNat] <;> omega
  width_eq := by
    simp only [UInt8.lt_iff_toNat_lt, UInt8.reduceToNat, hb]
    split_ifs <;> omega

/-- A first byte and those after it make up a character, and fewer are not enough. -/
structure Spells (first : UInt8) (more : List UInt8) (c : Char) : Prop where
  finished : ∀ rest, leadOf first (more ++ rest) = .char c (more.length + 1)
  unfinished : ∀ left, left <+: more → left ≠ more → leadOf first left = .unfinished

section Widths

variable {first second : UInt8}

theorem spells_one (h : first < 0x80) : Spells first [] (.ofNat first.toNat) where
  finished _ := if_pos h
  unfinished _ hleft hne := absurd (List.prefix_nil.mp hleft) hne

theorem leadOf_first {width : Nat} (h : Opens first second width) :
    leadOf first [] = .unfinished := by
  simp [leadOf, h.not_lt, h.isFirst]

theorem leadOf_second {width : Nat} (h : Opens first second width) (hwidth : width ≠ 2) :
    leadOf first [second] = .unfinished := by
  simp [leadOf, h.not_lt, h.isFirst, h.isSecond, h.width_eq, hwidth]

theorem spells_two (h : Opens first second 2) :
    Spells first [second] (.ofNat (first.toNat % 0x20 * 0x40 + sixBits second)) where
  finished rest := by simp [leadOf, h.not_lt, h.isFirst, h.isSecond, h.width_eq]
  unfinished left hleft hne := by
    simp only [List.prefix_cons_iff, List.prefix_nil] at hleft
    obtain rfl | ⟨t, rfl, rfl⟩ := hleft
    · exact leadOf_first h
    · exact absurd rfl hne

theorem spells_three (h : Opens first second 3) (n : Nat) :
    Spells first [second, continuation n]
      (.ofNat ((first.toNat % 0x10 * 0x40 + sixBits second) * 0x40 + n % 64)) where
  finished rest := by simp [leadOf, h.not_lt, h.isFirst, h.isSecond, h.width_eq]
  unfinished left hleft hne := by
    simp only [List.prefix_cons_iff, List.prefix_nil] at hleft
    obtain rfl | ⟨t, rfl, rfl | ⟨t', rfl, rfl⟩⟩ := hleft
    · exact leadOf_first h
    · exact leadOf_second h (by decide)
    · exact absurd rfl hne

theorem spells_four (h : Opens first second 4) (m n : Nat) :
    Spells first [second, continuation m, continuation n]
      (.ofNat (((first.toNat % 8 * 0x40 + sixBits second) * 0x40 + m % 64) * 0x40 + n % 64)) where
  finished rest := by simp [leadOf, h.not_lt, h.isFirst, h.isSecond, h.width_eq]
  unfinished left hleft hne := by
    simp only [List.prefix_cons_iff, List.prefix_nil] at hleft
    obtain rfl | ⟨t, rfl, rfl | ⟨t', rfl, rfl | ⟨t'', rfl, rfl⟩⟩⟩ := hleft
    · exact leadOf_first h
    · exact leadOf_second h (by decide)
    · simp [leadOf, h.not_lt, h.isFirst, h.isSecond, h.width_eq]
    · exact absurd rfl hne

end Widths

/-- What a character is encoded to makes up the character. -/
theorem exists_spells (c : Char) :
    ∃ first more, String.utf8EncodeChar c = first :: more ∧ Spells first more c := by
  have hvalid : c.toNat < 0xD800 ∨ 0xDFFF < c.toNat ∧ c.toNat < 0x110000 := c.valid
  have hchar : ∀ k, k = c.toNat → Char.ofNat k = c := fun k hk => hk ▸ c.ofNat_toNat
  -- the cases are those of one byte, two, three and four
  fun_cases String.utf8EncodeChar c with
  | case1 n h =>
    have hn : n = c.toNat := rfl
    have hfirst := UInt8.toNat_ofNat_of_lt' (show n < 256 by omega)
    have hlt : UInt8.ofNat n < 0x80 := by
      simp only [UInt8.lt_iff_toNat_lt, UInt8.reduceToNat, hfirst]
      omega
    refine ⟨_, _, rfl, ?_⟩
    rw [← hchar _ hfirst]
    exact spells_one hlt
  | case2 n h1 h2 =>
    have hn : n = c.toNat := rfl
    have hsecond := toNat_continuation n
    have hfirst := UInt8.toNat_ofNat_of_lt' (show n / 64 % 32 + 192 < 256 by omega)
    have hopens : Opens (.ofNat (n / 64 % 32 + 192)) (continuation n) 2 := by
      apply opens_of_toNat hfirst <;> omega
    refine ⟨_, _, rfl, ?_⟩
    have hspells := spells_two hopens
    rwa [hfirst, sixBits_continuation, hchar _ (by omega)] at hspells
  | case3 n h1 h2 h3 =>
    have hn : n = c.toNat := rfl
    have hsecond := toNat_continuation (n / 64)
    have hfirst := UInt8.toNat_ofNat_of_lt' (show n / 4096 % 16 + 224 < 256 by omega)
    have hopens : Opens (.ofNat (n / 4096 % 16 + 224)) (continuation (n / 64)) 3 := by
      apply opens_of_toNat hfirst <;> omega
    refine ⟨_, _, rfl, ?_⟩
    have hspells := spells_three hopens n
    rwa [hfirst, sixBits_continuation, hchar _ (by omega)] at hspells
  | case4 n h1 h2 h3 =>
    have hn : n = c.toNat := rfl
    have hsecond := toNat_continuation (n / 4096)
    have hfirst := UInt8.toNat_ofNat_of_lt' (show n / 262144 % 8 + 240 < 256 by omega)
    have hopens : Opens (.ofNat (n / 262144 % 8 + 240)) (continuation (n / 4096)) 4 := by
      apply opens_of_toNat hfirst <;> omega
    refine ⟨_, _, rfl, ?_⟩
    have hspells := spells_four hopens (n / 64) n
    rwa [hfirst, sixBits_continuation, hchar _ (by omega)] at hspells

/-- Some bytes begin a character, and more of them are needed.  They may be no bytes at all. -/
def IsUnfinished (left : List UInt8) : Prop :=
  ∃ c, left <+: String.utf8EncodeChar c ∧ left ≠ String.utf8EncodeChar c

theorem isUnfinished_nil : IsUnfinished [] :=
  ⟨'a', List.nil_prefix, Ne.symm String.utf8EncodeChar_ne_nil⟩

theorem IsUnfinished.leadOf_eq {b : UInt8} {rest : List UInt8} (h : IsUnfinished (b :: rest)) :
    leadOf b rest = .unfinished := by
  obtain ⟨c, hprefix, hne⟩ := h
  obtain ⟨first, more, hbytes, hspells⟩ := exists_spells c
  rw [hbytes] at hprefix hne
  obtain ⟨rfl, hrest⟩ := List.cons_prefix_cons.mp hprefix
  exact hspells.unfinished rest hrest fun h => hne (by rw [h])

/-- Characters are decoded one after the other, up to an unfinished one. -/
theorem decodeFrom_flatMap {left : List UInt8} (hleft : IsUnfinished left) (cs : List Char)
    {steps : Nat} (hsteps : cs.length ≤ steps) (position : Nat) (found : List Char) :
    decodeFrom position found steps (cs.flatMap String.utf8EncodeChar ++ left) =
      .ok (found.reverse ++ cs, left) := by
  -- each character takes one step, and an unfinished one stops them all
  induction cs generalizing steps position found with
  | nil =>
    rw [List.flatMap_nil, List.nil_append, List.append_nil]
    cases steps with
    | zero => rfl
    | succ steps =>
      cases left with
      | nil => rfl
      | cons b rest => rw [decodeFrom, hleft.leadOf_eq]
  | cons c cs ih =>
    obtain ⟨first, more, hbytes, hspells⟩ := exists_spells c
    cases steps with
    | zero => cases hsteps
    | succ steps =>
      rw [List.flatMap_cons, hbytes, List.append_assoc, List.cons_append, decodeFrom,
        hspells.finished]
      dsimp only
      rw [Nat.add_sub_cancel, List.drop_left, ih (Nat.le_of_succ_le_succ hsteps),
        List.reverse_cons, List.append_assoc, List.singleton_append]

/-- Nothing is left of whole characters. -/
theorem finished_flatMap {cs : List Char} (h : IsUnfinished (cs.flatMap String.utf8EncodeChar))
    (position : Nat) (found : List Char) :
    finished position found (cs.flatMap String.utf8EncodeChar) = .ok (found ++ cs) := by
  cases cs with
  | nil => rw [List.append_nil]; rfl
  | cons c cs =>
    -- the first character would have to be unfinished
    obtain ⟨first, more, hbytes, hspells⟩ := exists_spells c
    rw [List.flatMap_cons, hbytes, List.cons_append] at h
    have hlead := h.leadOf_eq
    rw [hspells.finished] at hlead
    cases hlead

/-- Wherever the bytes of some characters are cut, there are whole characters before the cut, and at most
the beginning of one more. -/
theorem exists_cut {cs : List Char} {bytes : List UInt8}
    (h : bytes <+: cs.flatMap String.utf8EncodeChar) :
    ∃ before after left, cs = before ++ after ∧
      bytes = before.flatMap String.utf8EncodeChar ++ left ∧ IsUnfinished left := by
  induction cs generalizing bytes with
  | nil => exact ⟨[], [], [], rfl, List.prefix_nil.mp h, isUnfinished_nil⟩
  | cons c cs ih =>
    rw [List.flatMap_cons] at h
    obtain hwithin | ⟨rest, rfl⟩ := List.prefix_or_prefix_of_prefix h (List.prefix_append _ _)
    · by_cases hwhole : bytes = String.utf8EncodeChar c
      · exact ⟨[c], cs, [], rfl, by simp [hwhole], isUnfinished_nil⟩
      · exact ⟨[], c :: cs, bytes, rfl, rfl, c, hwithin, hwhole⟩
    · obtain ⟨before, after, left, rfl, rfl, hleft⟩ :=
        ih ((List.prefix_append_right_inj _).mp h)
      exact ⟨c :: before, after, left, rfl, by simp, hleft⟩

theorem length_le_length_flatMap (cs : List Char) :
    cs.length ≤ (cs.flatMap String.utf8EncodeChar).length := by
  induction cs with
  | nil => exact Nat.le_refl _
  | cons c cs ih =>
    have hpos : 0 < (String.utf8EncodeChar c).length :=
      List.length_pos_iff.mpr String.utf8EncodeChar_ne_nil
    simp only [List.flatMap_cons, List.length_append, List.length_cons]
    omega

/-- Of a chunk, the whole characters are decoded; what is left goes on with the bytes behind it. -/
theorem exists_decodeBytes_chunk {left bytes : List UInt8} {cs : List Char}
    (hbytes : left ++ bytes = cs.flatMap String.utf8EncodeChar) (size : Nat) :
    ∃ before after left', cs = before ++ after ∧
      decodeBytes (left ++ bytes.take size) = .ok (before, left') ∧
      left' ++ bytes.drop size = after.flatMap String.utf8EncodeChar ∧ IsUnfinished left' := by
  have hprefix : left ++ bytes.take size <+: cs.flatMap String.utf8EncodeChar := by
    rw [← hbytes]
    exact (List.prefix_append_right_inj left).mpr (List.take_prefix _ _)
  obtain ⟨before, after, left', rfl, hcut, hleft'⟩ := exists_cut hprefix
  refine ⟨before, after, left', rfl, ?_, ?_, hleft'⟩
  · rw [decodeBytes, hcut]
    apply decodeFrom_flatMap hleft'
    rw [List.length_append]
    exact Nat.le_add_right_of_le (length_le_length_flatMap before)
  · have hall : before.flatMap String.utf8EncodeChar ++ (left' ++ bytes.drop size) =
        before.flatMap String.utf8EncodeChar ++ after.flatMap String.utf8EncodeChar := by
      rw [← List.append_assoc, ← hcut, List.append_assoc, List.take_append_drop, hbytes,
        List.flatMap_append]
    exact List.append_cancel_left hall

/-- Bytes that go on after an unfinished character are decoded chunk by chunk. -/
theorem decodeChunks_flatMap {left bytes : List UInt8} {cs : List Char} {steps : Nat}
    (hbytes : left ++ bytes = cs.flatMap String.utf8EncodeChar) (hleft : IsUnfinished left)
    (hsteps : bytes.length ≤ steps) (found : List Char) :
    decodeChunks found left steps bytes = .ok (found ++ cs) := by
  -- between two chunks, what is left and what is still to be read spell the characters not found yet
  induction steps generalizing left bytes cs found with
  | zero =>
    obtain rfl := List.eq_nil_of_length_eq_zero (Nat.le_zero.mp hsteps)
    rw [List.append_nil] at hbytes
    obtain rfl := hbytes
    exact finished_flatMap hleft 0 found
  | succ steps ih =>
    by_cases hnil : bytes = []
    · rw [hnil, List.append_nil] at hbytes
      obtain rfl := hbytes
      rw [hnil]
      exact finished_flatMap hleft 0 found
    · obtain ⟨before, after, left', rfl, hchunk, hrest, hleft'⟩ :=
        exists_decodeBytes_chunk hbytes chunkSize
      have hfewer : (bytes.drop chunkSize).length ≤ steps := by
        have hsize : 0 < chunkSize := by decide
        have hpos := List.length_pos_iff.mpr hnil
        rw [List.length_drop]
        omega
      rw [decodeChunks, hchunk]
      · dsimp only
        rw [ih hrest hleft' hfewer, List.append_assoc]
      · exact hnil

/-- A file that holds a text is decoded to the text. -/
theorem decodeInChunks_encode (s : String) : decodeInChunks (encode s) = .ok s.toList := by
  rw [decodeInChunks, encode_eq_flatMap]
  exact decodeChunks_flatMap (List.nil_append _) isUnfinished_nil (Nat.le_refl _) []

end DidYouMean.Text
