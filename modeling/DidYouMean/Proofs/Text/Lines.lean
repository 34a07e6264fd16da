import DidYouMean.Text.Lines
import Mathlib

/-!
# Lines and their ends

A text is cut into lines at its line ends, whichever of the three each of them is.

## Main definitions

- `LineEnd`: a line feed, a carriage return, or both
- `IsInline`: no line ends within a text

## Main statements

- `exists_first_line`: a text is one line, or it has a first line and a line end
- `filterMap_lines_append`: what is made of the lines of a text that has a first line

## Design notes

A carriage return and a line feed behind it are one line end, even if the carriage return is meant as
the end of one line and the line feed as that of an empty line.  This empty line is then no line of
the text.  It makes no difference to whoever makes nothing of an empty line.
-/

namespace DidYouMean.Text

/-- What ends a line. -/
inductive LineEnd where
  | lineFeed
  | carriageReturn
  | both
  deriving Repr, DecidableEq

def LineEnd.chars : LineEnd → List Char
  | .lineFeed => ['\n']
  | .carriageReturn => ['\r']
  | .both => ['\r', '\n']

/-- No line ends within the text. -/
def IsInline (cs : List Char) : Prop :=
  ∀ c ∈ cs, c ≠ '\r' ∧ c ≠ '\n'

instance : DecidablePred IsInline := fun cs => List.decidableBAll _ cs

variable {line rest : List Char}

theorem IsInline.not_mem (h : IsInline line) : '\n' ∉ line :=
  fun hmem => (h _ hmem).2 rfl

/-- A text is one line, or it has a first line, which is followed by a line end. -/
theorem exists_first_line (cs : List Char) : IsInline cs ∨ ∃ line e rest,
    IsInline line ∧ cs = line ++ (LineEnd.chars e ++ rest) := by
  induction cs with
  | nil => exact .inl (List.forall_mem_nil _)
  | cons c cs ih =>
    by_cases hreturn : c = '\r'
    · exact .inr ⟨[], .carriageReturn, cs, List.forall_mem_nil _, by rw [hreturn]; rfl⟩
    by_cases hfeed : c = '\n'
    · exact .inr ⟨[], .lineFeed, cs, List.forall_mem_nil _, by rw [hfeed]; rfl⟩
    obtain hinline | ⟨line, e, rest, hinline, rfl⟩ := ih
    · exact .inl (List.forall_mem_cons.mpr ⟨⟨hreturn, hfeed⟩, hinline⟩)
    · exact .inr ⟨c :: line, e, rest,
        List.forall_mem_cons.mpr ⟨⟨hreturn, hfeed⟩, hinline⟩, rfl⟩

section Splitting

variable {separator : Char}

theorem splitAt_append (h : separator ∉ line) :
    splitAt separator (line ++ separator :: rest) = line :: splitAt separator rest := by
  induction line with
  | nil => simp [splitAt]
  | cons c line ih =>
    obtain ⟨hc, hline⟩ := not_or.mp (mt List.mem_cons.mpr h)
    rw [List.cons_append, splitAt, if_neg (Ne.symm hc), ih hline]

theorem splitAt_of_not_mem (h : separator ∉ line) : splitAt separator line = [line] := by
  induction line with
  | nil => rfl
  | cons c line ih =>
    obtain ⟨hc, hline⟩ := not_or.mp (mt List.mem_cons.mpr h)
    rw [splitAt, if_neg (Ne.symm hc), ih hline]

end Splitting

theorem unifyLineEnds_append (h : IsInline line) :
    unifyLineEnds (line ++ rest) = line ++ unifyLineEnds rest := by
  induction line with
  | nil => rfl
  | cons c line ih =>
    obtain ⟨hc, hline⟩ := List.forall_mem_cons.mp h
    rw [List.cons_append, unifyLineEnds, ih hline]
    · rfl
    · exact fun _ hreturn _ => hc.1 hreturn
    · exact hc.1

/-- A text in which no line ends is the only line of itself. -/
theorem lines_of_isInline (h : IsInline line) : lines line = [line] := by
  have hunified : unifyLineEnds (line ++ []) = line ++ [] := unifyLineEnds_append h
  rw [List.append_nil] at hunified
  rw [lines, hunified, splitAt_of_not_mem h.not_mem]

theorem lines_append {rest' : List Char} (h : IsInline line)
    (hrest : unifyLineEnds rest = '\n' :: unifyLineEnds rest') :
    lines (line ++ rest) = line :: lines rest' := by
  rw [lines, unifyLineEnds_append h, hrest, splitAt_append h.not_mem, lines]

theorem unifyLineEnds_lineFeed (rest : List Char) :
    unifyLineEnds ('\n' :: rest) = '\n' :: unifyLineEnds rest := by
  rw [unifyLineEnds] <;> simp

/-- A line end is unified with a line feed behind it if it is a carriage return alone. -/
theorem unifyLineEnds_chars (e : LineEnd) (rest : List Char) :
    unifyLineEnds (e.chars ++ rest) = '\n' :: unifyLineEnds rest ∨
      ∃ rest', rest = '\n' :: rest' ∧
        unifyLineEnds (e.chars ++ rest) = '\n' :: unifyLineEnds rest' := by
  cases e with
  | lineFeed => exact .inl (unifyLineEnds_lineFeed rest)
  | both => exact .inl rfl
  | carriageReturn =>
    by_cases hfeed : ∃ rest', rest = '\n' :: rest'
    · obtain ⟨rest', rfl⟩ := hfeed
      exact .inr ⟨rest', rfl, rfl⟩
    · exact .inl (unifyLineEnds.eq_2 rest fun rest' h => hfeed ⟨rest', h⟩)

/-- Of a text that has a first line, something may be made of this line, and of the lines behind it. -/
theorem filterMap_lines_append {β : Type} {f : List Char → Option β} (hempty : f [] = none)
    (h : IsInline line) (e : LineEnd) (rest : List Char) :
    (lines (line ++ (e.chars ++ rest))).filterMap f =
      (f line).toList ++ (lines rest).filterMap f := by
  have hcons : ∀ more, (line :: more).filterMap f = (f line).toList ++ more.filterMap f := by
    intro more
    rw [List.filterMap_cons]
    cases f line <;> rfl
  obtain hunified | ⟨rest', rfl, hunified⟩ := unifyLineEnds_chars e rest
  · rw [lines_append h hunified, hcons]
  · have hfirst : lines ('\n' :: rest') = [] :: lines rest' :=
      lines_append (List.forall_mem_nil _) (unifyLineEnds_lineFeed rest')
    rw [lines_append h hunified, hcons, hfirst, List.filterMap_cons_none hempty]

end DidYouMean.Text
