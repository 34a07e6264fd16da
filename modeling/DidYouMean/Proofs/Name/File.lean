import DidYouMean.Name.File
import DidYouMean.Proofs.Files.Tree
import DidYouMean.Proofs.Text.Blank
import DidYouMean.Proofs.Text.Lines
import DidYouMean.Proofs.Text.Utf8

/-!
# Names files read back

A names file is written line by line.  A line has a name on it, with white space around it, or it is
blank, or it is a comment.

## Main definitions

- `IsPlain`: a name that can stand on a line
- `Holds`: a line has a name on it, or none
- `Written`: the text of a file with some names

## Main statements

- `Holds.nameIn?_eq`, `exists_holds`: what a line holds is found, and every line holds a name or none
- `namesOf_eq_iff_written`: the names of a text are those with which it is written
- `written_of_isPlain`: plain names can be written, with any line ends
- `readNames_written`: the names that were written are read, and all names that are read are plain

## Design notes

Every text is the text of some names file, for a line that is neither blank nor a comment has a plain
name on it.  So the names that are read from any file at all are plain.
-/

namespace DidYouMean.Name

open Text (IsInline IsTrimmed LineEnd isBlank)

/-- A name that can stand on a line: it is not empty, it has no white space at its ends and no line end
in it, and it does not look like a comment. -/
structure IsPlain (name : String) : Prop where
  ne_nil : name.toList ≠ []
  trimmed : IsTrimmed name.toList
  inline : IsInline name.toList
  not_comment : name.toList.head? ≠ some '#'

instance : DecidablePred IsPlain := fun name =>
  decidable_of_iff (name.toList ≠ [] ∧ IsTrimmed name.toList ∧ IsInline name.toList ∧
      name.toList.head? ≠ some '#')
    ⟨fun h => ⟨h.1, h.2.1, h.2.2.1, h.2.2.2⟩,
      fun h => ⟨h.ne_nil, h.trimmed, h.inline, h.not_comment⟩⟩

/-- White space within a line. -/
structure IsPadding (cs : List Char) : Prop where
  blank : ∀ c ∈ cs, isBlank c
  inline : IsInline cs

instance : DecidablePred IsPadding := fun cs =>
  letI : Decidable (∀ c ∈ cs, isBlank c) := List.decidableBAll _ cs
  decidable_of_iff ((∀ c ∈ cs, isBlank c) ∧ IsInline cs)
    ⟨fun h => ⟨h.1, h.2⟩, fun h => ⟨h.blank, h.inline⟩⟩

/-- A line has a name on it, or it has none because it is blank or a comment. -/
inductive Holds : List Char → Option String → Prop where
  | name {before after : List Char} {name : String} (hbefore : IsPadding before)
      (hname : IsPlain name) (hafter : IsPadding after) :
      Holds (before ++ (name.toList ++ after)) (some name)
  | blank {line : List Char} (hline : IsPadding line) : Holds line none
  | comment {indent text : List Char} (hindent : IsPadding indent) (htext : IsInline text) :
      Holds (indent ++ '#' :: text) none

/-- The text of a file with some names: lines, each with its end, and a last line without one, which may
be empty. -/
inductive Written : List Char → List String → Prop where
  | last {line : List Char} {held : Option String} (hline : Holds line held) :
      Written line held.toList
  | line {line rest : List Char} {held : Option String} {names : List String}
      (hline : Holds line held) (e : LineEnd) (hrest : Written rest names) :
      Written (line ++ (e.chars ++ rest)) (held.toList ++ names)

/-- The name on a line, if there is one. -/
def nameIn? (line : List Char) : Option String :=
  if holdsName (Text.trimChars line) then some (String.ofList (Text.trimChars line)) else none

theorem namesOf_eq_filterMap (cs : List Char) : namesOf cs = (Text.lines cs).filterMap nameIn? := by
  rw [namesOf, List.filter_map, List.map_map, ← List.filterMap_eq_map, List.filterMap_filter]
  rfl

variable {line : List Char} {held : Option String}

theorem Holds.isInline (h : Holds line held) : IsInline line := by
  cases h with
  | name hbefore hname hafter =>
    exact List.forall_mem_append.mpr
      ⟨hbefore.inline, List.forall_mem_append.mpr ⟨hname.inline, hafter.inline⟩⟩
  | blank hline => exact hline.inline
  | comment hindent htext =>
    exact List.forall_mem_append.mpr
      ⟨hindent.inline, List.forall_mem_cons.mpr ⟨by decide, htext⟩⟩

theorem IsPlain.holdsName_eq {name : String} (h : IsPlain name) : holdsName name.toList = true := by
  cases hname : name.toList with
  | nil => exact absurd hname h.ne_nil
  | cons c cs =>
    have hc := h.not_comment
    rw [hname] at hc
    simpa [holdsName] using hc

/-- The name on a line is found. -/
theorem Holds.nameIn?_eq (h : Holds line held) : nameIn? line = held := by
  cases h with
  | name hbefore hname hafter =>
    rw [nameIn?, Text.trimChars_of_blanks hbefore.blank hname.trimmed hafter.blank,
      if_pos hname.holdsName_eq, String.ofList_toList]
  | blank hline =>
    rw [nameIn?, Text.trimChars_eq_nil_iff.mpr hline.blank]
    rfl
  | comment hindent htext =>
    have hsign : isBlank '#' = false := by decide
    obtain ⟨more, htrim⟩ := Text.exists_trimChars_eq_cons hindent.blank hsign
    rw [nameIn?, htrim]
    rfl

/-- Every line has a name on it, or is blank, or is a comment. -/
theorem exists_holds (h : IsInline line) : ∃ held, Holds line held := by
  obtain ⟨before, after, hbefore, hafter, hcut⟩ := Text.exists_blanks line
  have htrimmed := Text.isTrimmed_trimChars line
  generalize Text.trimChars line = core at hcut htrimmed
  obtain rfl := hcut
  obtain ⟨hinBefore, hrest⟩ := List.forall_mem_append.mp h
  obtain ⟨hinCore, hinAfter⟩ := List.forall_mem_append.mp hrest
  -- nothing but white space, a comment, or a name
  cases core with
  | nil => exact ⟨none, .blank ⟨List.forall_mem_append.mpr ⟨hbefore, hafter⟩, h⟩⟩
  | cons c core =>
    by_cases hc : c = '#'
    · have htext : IsInline (core ++ after) :=
        List.forall_mem_append.mpr ⟨(List.forall_mem_cons.mp hinCore).2, hinAfter⟩
      rw [hc]
      exact ⟨none, .comment ⟨hbefore, hinBefore⟩ htext⟩
    · have hname : (String.ofList (c :: core)).toList = c :: core := String.toList_ofList
      have hplain : IsPlain (.ofList (c :: core)) := by
        constructor <;> rw [hname]
        · exact List.cons_ne_nil c core
        · exact htrimmed
        · exact hinCore
        · exact fun hhead => hc (Option.some.inj hhead)
      have hholds := Holds.name ⟨hbefore, hinBefore⟩ hplain ⟨hafter, hinAfter⟩
      rw [hname] at hholds
      exact ⟨_, hholds⟩

section Texts

variable {cs : List Char} {names : List String}

/-- The names that were written are found, in their order. -/
theorem Written.namesOf_eq (h : Written cs names) : namesOf cs = names := by
  rw [namesOf_eq_filterMap]
  induction h with
  | @last line held hline =>
    rw [Text.lines_of_isInline hline.isInline, List.filterMap_cons, hline.nameIn?_eq]
    cases held <;> rfl
  | line hline e hrest ih =>
    rw [Text.filterMap_lines_append rfl hline.isInline, hline.nameIn?_eq, ih]

/-- Every text is one that was written with some names. -/
theorem exists_written (cs : List Char) : ∃ names, Written cs names := by
  obtain hinline | ⟨line, e, rest, hinline, hcut⟩ := Text.exists_first_line cs
  · obtain ⟨held, hline⟩ := exists_holds hinline
    exact ⟨_, .last hline⟩
  · have hshorter : rest.length < cs.length := by
      rw [hcut]
      cases e <;> simp [LineEnd.chars] <;> omega
    obtain ⟨held, hline⟩ := exists_holds hinline
    obtain ⟨names, hrest⟩ := exists_written rest
    rw [hcut]
    exact ⟨_, .line hline e hrest⟩
termination_by cs.length

/-- The names of a text are those with which it is written. -/
theorem namesOf_eq_iff_written : namesOf cs = names ↔ Written cs names := by
  constructor
  · rintro rfl
    obtain ⟨names, hwritten⟩ := exists_written cs
    rwa [hwritten.namesOf_eq]
  · exact Written.namesOf_eq

theorem Holds.isPlain {name : String} (h : Holds line (some name)) : IsPlain name := by
  cases h with
  | name _ hname _ => exact hname

theorem Written.isPlain (h : Written cs names) : ∀ name ∈ names, IsPlain name := by
  have hheld : ∀ {line held}, Holds line held → ∀ name ∈ held.toList, IsPlain name := by
    intro line held hline name hname
    obtain rfl := Option.mem_toList.mp hname
    exact hline.isPlain
  induction h with
  | last hline => exact hheld hline
  | line hline e hrest ih => exact List.forall_mem_append.mpr ⟨hheld hline, ih⟩

/-- Any plain names can be written, each on a line of its own, with any line ends. -/
theorem written_of_isPlain (lines : List (String × LineEnd)) (h : ∀ l ∈ lines, IsPlain l.1) :
    Written (lines.flatMap fun l => l.1.toList ++ l.2.chars) (lines.map (·.1)) := by
  have hnil : IsPadding [] := ⟨List.forall_mem_nil _, List.forall_mem_nil _⟩
  induction lines with
  | nil => exact .last (.blank hnil)
  | cons l lines ih =>
    obtain ⟨hplain, hlines⟩ := List.forall_mem_cons.mp h
    have hwritten := Written.line (.name hnil hplain hnil) l.2 (ih hlines)
    rwa [List.append_nil, List.nil_append, ← List.append_assoc] at hwritten

end Texts

section Files

variable {files : FileTree} {path : Path} {names : List String}

/-- Names are read if there is a file and it can be decoded. -/
theorem readNames_eq_ok_iff : readNames files path = .ok names ↔
    ∃ content cs, files.read path = .ok content ∧
      Text.decodeInChunks content.toBytes = .ok cs ∧ namesOf cs = names := by
  cases hlook : files.look? path with
  | none => simp [readNames, FileTree.read_eq_ok_iff, hlook]
  | some entry =>
    rw [readNames, hlook, Option.isNone_some, if_neg Bool.false_ne_true]
    cases files.read path with
    | error e => simp
    | ok content =>
      simp only [namesOfBytes, Except.ok.injEq, exists_and_left, exists_eq_left']
      cases Text.decodeInChunks content.toBytes <;> simp

/-- Any plain names can be written, each on a line of its own, with any line ends.  The names that are
read from a file that holds a text are those with which the text is written.  Whatever file names are read
from, they are plain. -/
theorem readNames_written :
    (∀ lines : List (String × LineEnd), (∀ l ∈ lines, IsPlain l.1) →
      Written (lines.flatMap fun l => l.1.toList ++ l.2.chars) (lines.map (·.1))) ∧
    (∀ (files : FileTree) (path : Path) (text : String) (names : List String),
      files.read path = .ok (.bytes (Text.encode text)) →
        (readNames files path = .ok names ↔ Written text.toList names)) ∧
    ∀ (files : FileTree) (path : Path) (names : List String),
      readNames files path = .ok names → ∀ name ∈ names, IsPlain name := by
  refine ⟨written_of_isPlain, ?_, ?_⟩
  · intro files path text names hread
    have hdecoded : Text.decodeInChunks (Content.bytes (Text.encode text)).toBytes = .ok text.toList :=
      Text.decodeInChunks_encode text
    rw [readNames_eq_ok_iff, ← namesOf_eq_iff_written]
    constructor
    · rintro ⟨content, cs, hcontent, hcs, hnames⟩
      obtain rfl := Except.ok.inj (hread.symm.trans hcontent)
      obtain rfl := Except.ok.inj (hdecoded.symm.trans hcs)
      exact hnames
    · intro hnames
      exact ⟨_, _, hread, hdecoded, hnames⟩
  · intro files path names hnames
    obtain ⟨content, cs, -, -, hcs⟩ := readNames_eq_ok_iff.mp hnames
    exact (namesOf_eq_iff_written.mp hcs).isPlain

end Files

section Sample

/-- A text with all three line ends, a comment, a blank line, and no line end after the last name. -/
def sampleText : String := "Length\r\n\t# note\r  Width \n\nHeight"

def sampleFiles : FileTree :=
  ⟨[(["names.txt"], .file (.bytes (Text.encode sampleText)) 0), ([], .folder 0)], [], 1⟩

theorem written_sampleText : Written sampleText.toList ["Length", "Width", "Height"] := by
  have hnil : IsPadding [] := by decide
  have hindent : IsPadding [' ', ' '] ∧ IsPadding ['\t'] ∧ IsPadding [' '] := by decide
  have hplain : IsPlain "Length" ∧ IsPlain "Width" ∧ IsPlain "Height" := by decide
  have hnote : IsInline " note".toList := by decide
  -- from the last line to the first
  have hheight := Written.last (.name hnil hplain.2.2 hnil)
  have hblank := Written.line (.blank hnil) .lineFeed hheight
  have hwidth := Written.line (.name hindent.1 hplain.2.1 hindent.2.2) .lineFeed hblank
  have hcomment := Written.line (.comment hindent.2.1 hnote) .carriageReturn hwidth
  exact Written.line (.name hnil hplain.1 hnil) .both hcomment

end Sample

/-- The names are read without the white space around them, and they could have been written without
it. -/
theorem readNames_written_sample :
    sampleFiles.read (.ofText "names.txt") = .ok (.bytes (Text.encode sampleText)) ∧
      Written sampleText.toList ["Length", "Width", "Height"] ∧
      readNames sampleFiles (.ofText "names.txt") = .ok ["Length", "Width", "Height"] ∧
      (∀ name ∈ ["Length", "Width", "Height"], IsPlain name) ∧
      Written "Length\r\nWidth\rHeight\n".toList ["Length", "Width", "Height"] := by
  obtain ⟨hwrite, hnames, hplain⟩ := readNames_written
  have hread : sampleFiles.read (.ofText "names.txt") = .ok (.bytes (Text.encode sampleText)) := by
    cbv
  have hsample : readNames sampleFiles (.ofText "names.txt") = .ok ["Length", "Width", "Height"] :=
    (hnames _ _ _ _ hread).mpr written_sampleText
  have hlines : ∀ l ∈ [("Length", LineEnd.both), ("Width", .carriageReturn), ("Height", .lineFeed)],
      IsPlain l.1 := by
    decide
  exact ⟨hread, written_sampleText, hsample, hplain _ _ _ hsample, hwrite _ hlines⟩

end DidYouMean.Name
