import DidYouMean.Gold
import DidYouMean.Proofs.Files.Tree
import DidYouMean.Proofs.Repeats
import DidYouMean.Proofs.Table.Words

/-!
# What a gold table lists

The expected names of a query are those on the rows where both cells are filled in.  Whether they are
is told from the cells as they are written back, not as they stand in the file: a cell that holds no
value is written as a word, and counts as filled in.

## Main definitions

- `filledIn?`: the trimmed cells of a row, if neither is blank
- `Gold.Lists`: the queries and expected names are those of some pairs
- `SamePairs`: two lists of pairs make the same gold table
- `IsGoldFile`: a file of comma-separated text with columns of words for queries and expected names

## Main statements

- `Gold.Lists.add`, `Gold.lists_addRows`: what a row adds, and what all rows make
- `readGold_of_words`: what is read from such a file, and when these are the names filled in
-/

namespace DidYouMean

open Json (Value)
open Table (Column AreWords shown givenColumns)

/-- A cell of the row is blank. -/
def IsBlankRow (row : String × String) : Prop :=
  Text.trim row.1 = "" ∨ Text.trim row.2 = ""

instance (row : String × String) : Decidable (IsBlankRow row) :=
  inferInstanceAs (Decidable (_ ∨ _))

/-- The cells of a row without white space around them, if neither is blank. -/
def filledIn? (row : String × String) : Option (String × String) :=
  if IsBlankRow row then none else some (Text.trim row.1, Text.trim row.2)

/-- The queries are those of some pairs, in the order in which they first occur, and each has the names
that are paired with it, once. -/
structure Gold.Lists (gold : Gold) (pairs : List (String × String)) : Prop where
  queries : gold.map (·.1) = (pairs.map (·.1)).eraseDups
  nodup : ∀ entry ∈ gold, entry.2.Nodup
  mem_iff : ∀ entry ∈ gold, ∀ name, name ∈ entry.2 ↔ (entry.1, name) ∈ pairs

/-- The pairs are the same but for repeats and order, and the queries first occur in the same order. -/
def SamePairs (pairs pairs' : List (String × String)) : Prop :=
  (pairs.map (·.1)).eraseDups = (pairs'.map (·.1)).eraseDups ∧ ∀ pair, pair ∈ pairs ↔ pair ∈ pairs'

namespace Gold

variable {gold : Gold} {pairs pairs' : List (String × String)} {query expected : String}

theorem lists_nil : Lists [] [] :=
  ⟨rfl, by simp, by simp⟩

theorem Lists.mem_queries_iff (h : gold.Lists pairs) :
    query ∈ gold.map (·.1) ↔ query ∈ pairs.map (·.1) := by
  rw [h.queries, List.mem_eraseDups]

/-- A pair with a new query. -/
theorem Lists.append (h : gold.Lists pairs) (hnew : query ∉ pairs.map (·.1)) :
    Lists (gold ++ [(query, [expected])]) (pairs ++ [(query, expected)]) := by
  constructor
  · rw [List.map_append, List.map_append, h.queries]
    exact (eraseDups_append_singleton _ query).symm ▸ (if_neg hnew).symm
  · simp only [List.forall_mem_append, List.forall_mem_singleton]
    exact ⟨h.nodup, List.nodup_singleton expected⟩
  · simp only [List.forall_mem_append, List.forall_mem_singleton]
    refine ⟨fun entry hentry name => ?_, fun name => ?_⟩
    · have hother : entry.1 ≠ query := by
        rintro rfl
        exact hnew (h.mem_queries_iff.mp (List.mem_map_of_mem hentry))
      rw [h.mem_iff entry hentry]
      simp [hother]
    · have hnone : (query, name) ∉ pairs := fun hmem => hnew (List.mem_map_of_mem hmem)
      simp [hnone]

/-- An entry with another name, if it is the entry of the query and does not have the name yet. -/
def withName (query expected : String) (entry : String × List String) : String × List String :=
  if entry.1 == query && !entry.2.contains expected then (entry.1, entry.2 ++ [expected])
  else (entry.1, entry.2)

section Entries

variable {entry : String × List String} {name : String}

theorem withName_fst : (withName query expected entry).1 = entry.1 := by
  rw [withName]
  split <;> rfl

theorem nodup_withName (h : entry.2.Nodup) : (withName query expected entry).2.Nodup := by
  rw [withName]
  split_ifs with hadd
  · have hnew : expected ∉ entry.2 := by simp_all
    rw [← List.concat_eq_append]
    exact h.concat hnew
  · exact h

theorem mem_withName_iff : name ∈ (withName query expected entry).2 ↔
    name ∈ entry.2 ∨ entry.1 = query ∧ name = expected := by
  rw [withName]
  split_ifs with hadd
  · have hquery : entry.1 = query := by simp_all
    simp [hquery]
  · -- another query's entry, or the name is there already
    have hold : entry.1 = query → expected ∈ entry.2 := by simpa using hadd
    refine ⟨.inl, fun h => h.elim id ?_⟩
    rintro ⟨hquery, rfl⟩
    exact hold hquery

end Entries

/-- A pair whose query is there already. -/
theorem Lists.insert (h : gold.Lists pairs) (hold : query ∈ pairs.map (·.1)) :
    Lists (gold.map (withName query expected)) (pairs ++ [(query, expected)]) := by
  constructor
  · rw [List.map_map, List.map_append]
    refine (List.map_congr_left fun entry _ => withName_fst).trans (h.queries.trans ?_)
    exact (eraseDups_append_singleton _ query).symm ▸ (if_pos hold).symm
  · rw [List.forall_mem_map]
    exact fun entry hentry => nodup_withName (h.nodup entry hentry)
  · rw [List.forall_mem_map]
    intro entry hentry name
    rw [withName_fst, mem_withName_iff, h.mem_iff entry hentry]
    simp

/-- Another pair adds its query at the end if it is new, and else its name to the others. -/
theorem Lists.add (h : gold.Lists pairs) :
    (gold.add query expected).Lists (pairs ++ [(query, expected)]) := by
  rw [Gold.add]
  cases hlookup : gold.lookup query with
  | none =>
    refine h.append fun hmem => ?_
    obtain ⟨entry, hentry, rfl⟩ := List.mem_map.mp (h.mem_queries_iff.mpr hmem)
    have hne := List.lookup_eq_none_iff.mp hlookup entry hentry
    simp at hne
  | some names =>
    obtain ⟨before, after, hsplit, -⟩ := List.lookup_eq_some_iff.mp hlookup
    refine h.insert (h.mem_queries_iff.mp ?_)
    rw [hsplit]
    simp

/-- The rows of a table list what is filled in on them. -/
theorem lists_addRows (rows : List (String × String)) :
    Lists (rows.foldl addRow []) (rows.filterMap filledIn?) := by
  induction rows using List.reverseRecOn with
  | nil => exact lists_nil
  | append_singleton rows row ih =>
    rw [List.foldl_append, List.filterMap_append, List.foldl_cons, List.foldl_nil, addRow]
    have hblank : (decide (Text.trim row.1 = "") || decide (Text.trim row.2 = "")) = true ↔
        IsBlankRow row := by simp [IsBlankRow]
    simp only [hblank]
    by_cases hrow : IsBlankRow row
    · simpa [filledIn?, hrow] using ih
    · simpa [filledIn?, hrow] using ih.add

theorem Lists.mem_pairs_iff (h : gold.Lists pairs) {name : String} :
    (query, name) ∈ pairs ↔ ∃ entry ∈ gold, entry.1 = query ∧ name ∈ entry.2 := by
  constructor
  · intro hpair
    obtain ⟨entry, hentry, rfl⟩ :=
      List.mem_map.mp (h.mem_queries_iff.mpr (List.mem_map_of_mem hpair))
    exact ⟨entry, hentry, rfl, (h.mem_iff entry hentry name).mpr hpair⟩
  · rintro ⟨entry, hentry, rfl, hname⟩
    exact (h.mem_iff entry hentry name).mp hname

/-- The same table lists other pairs if and only if these are the same. -/
theorem Lists.iff_samePairs (h : gold.Lists pairs) :
    gold.Lists pairs' ↔ SamePairs pairs pairs' := by
  constructor
  · intro h'
    refine ⟨h.queries.symm.trans h'.queries, fun (query, name) => ?_⟩
    rw [h.mem_pairs_iff, h'.mem_pairs_iff]
  · rintro ⟨hqueries, hpairs⟩
    exact ⟨h.queries.trans hqueries, h.nodup, fun entry hentry name =>
      (h.mem_iff entry hentry name).trans (hpairs _)⟩

end Gold

section Columns

variable {columns : List Column} {queries expected : Column} {name : String}

theorem filter_goesBy_written : (columns.map Column.written).filter (·.goesBy name) =
    (columns.filter (·.goesBy name)).map Column.written := by
  rw [List.filter_map]
  rfl

theorem isAmbiguous_written (folded : String) :
    isAmbiguous (columns.map Column.written) folded name = isAmbiguous columns folded name := by
  rw [isAmbiguous, isAmbiguous, filter_goesBy_written, ← List.map_dropLast, List.any_map]
  rfl

/-- The cells of two columns, row by row. -/
def rowsOf (queries expected : Column) : List (String × String) :=
  queries.cells.zip expected.cells

/-- A row of two columns of words as it is written back. -/
def shownRow (queries expected : Column) (row : String × String) : String × String :=
  (shown queries.cells row.1, shown expected.cells row.2)

theorem rowsOf_written (hqueries : AreWords queries.cells) (hexpected : AreWords expected.cells) :
    rowsOf queries.written expected.written =
      (rowsOf queries expected).map (shownRow queries expected) := by
  rw [rowsOf, Column.written, Column.written, Table.writtenCells_of_words hqueries,
    Table.writtenCells_of_words hexpected, List.zip_map]
  rfl

/-- One of two columns of a name has the very name that the other one is given. -/
def AreAmbiguous (columns : List Column) : Prop :=
  isAmbiguous columns "query" "Query" ∨ isAmbiguous columns "expected" "Expected"

instance (columns : List Column) : Decidable (AreAmbiguous columns) :=
  inferInstanceAs (Decidable (_ ∨ _))

/-- A table lists what is filled in on its rows as they are written back. -/
theorem goldOf_written (hqueries : (columns.filter (·.goesBy "query")).getLast? = some queries)
    (hexpected : (columns.filter (·.goesBy "expected")).getLast? = some expected)
    (hqueryWords : AreWords queries.cells) (hexpectedWords : AreWords expected.cells) :
    goldOf (columns.map Column.written) =
      if rowsOf queries expected ≠ [] ∧ AreAmbiguous columns then .error .ambiguousColumns
      else .ok (((rowsOf queries expected).map (shownRow queries expected)).foldl Gold.addRow []) := by
  have hwritten : ∀ {name : String} {column : Column},
      (columns.filter (·.goesBy name)).getLast? = some column →
      ((columns.map Column.written).filter (·.goesBy name)).getLast? = some column.written := by
    intro name column h
    rw [filter_goesBy_written, List.getLast?_map, h]
    rfl
  have hrows := rowsOf_written hqueryWords hexpectedWords
  rw [rowsOf] at hrows
  rw [goldOf, hwritten hqueries, hwritten hexpected]
  dsimp only
  rw [hrows, isAmbiguous_written, isAmbiguous_written]
  exact if_congr (by simp [AreAmbiguous]) rfl rfl

theorem filledIn?_eq_iff {row row' : String × String} : filledIn? row = filledIn? row' ↔
    IsBlankRow row ∧ IsBlankRow row' ∨
      Text.trim row.1 = Text.trim row'.1 ∧ Text.trim row.2 = Text.trim row'.2 := by
  rw [filledIn?, filledIn?]
  by_cases hsame : Text.trim row.1 = Text.trim row'.1 ∧ Text.trim row.2 = Text.trim row'.2
  · have hrows : IsBlankRow row ↔ IsBlankRow row' := by
      rw [IsBlankRow, IsBlankRow, hsame.1, hsame.2]
    simp [hrows, hsame]
  · by_cases hrow : IsBlankRow row <;> by_cases hrow' : IsBlankRow row' <;>
      simp [hrow, hrow', hsame]

/-- A row counts as it stands if one of its cells is white space, or if both are written as they stand,
but for white space around them. -/
theorem filledIn?_shownRow_iff (row : String × String) :
    filledIn? (shownRow queries expected row) = filledIn? row ↔
      (∃ cell ∈ [row.1, row.2], cell ≠ "" ∧ Text.trim cell = "") ∨
        Text.trim (shown queries.cells row.1) = Text.trim row.1 ∧
          Text.trim (shown expected.cells row.2) = Text.trim row.2 := by
  have hshown : IsBlankRow (shownRow queries expected row) ↔
      ∃ cell ∈ [row.1, row.2], cell ≠ "" ∧ Text.trim cell = "" := by
    rw [IsBlankRow, shownRow, Table.trim_shown_eq_empty_iff, Table.trim_shown_eq_empty_iff]
    simp
  have hblank : (∃ cell ∈ [row.1, row.2], cell ≠ "" ∧ Text.trim cell = "") → IsBlankRow row := by
    rintro ⟨cell, hcell, -, hwhite⟩
    rcases List.mem_pair.mp hcell with rfl | rfl
    · exact .inl hwhite
    · exact .inr hwhite
  rw [filledIn?_eq_iff, hshown, and_iff_left_of_imp hblank]
  rfl

end Columns

section Files

variable {files : FileTree} {path : Path} {columns : List Column} {queries expected : Column}

/-- A path leads to a file with comma-separated text in these columns. -/
def HoldsColumns (files : FileTree) (path : Path) (columns : List Column) : Prop :=
  ∃ content cs, files.read path = .ok content ∧ Text.decodeInChunks content.toBytes = .ok cs ∧
    givenColumns cs = .ok columns

/-- A path leads to a file of comma-separated text with columns for the queries and the expected names,
the cells of which hold words or nothing. -/
structure IsGoldFile (files : FileTree) (path : Path) (columns : List Column)
    (queries expected : Column) : Prop where
  not_workbook : isWorkbookPath path = false
  holds : HoldsColumns files path columns
  queries_eq : (columns.filter (·.goesBy "query")).getLast? = some queries
  expected_eq : (columns.filter (·.goesBy "expected")).getLast? = some expected
  queryWords : AreWords queries.cells
  expectedWords : AreWords expected.cells

/-- The columns of comma-separated text are read as they are written back. -/
theorem readGold_of_holdsColumns (hpath : isWorkbookPath path = false)
    (h : HoldsColumns files path columns) :
    readGold files path = goldOf (columns.map Column.written) := by
  obtain ⟨content, cs, hread, hdecode, hgiven⟩ := h
  have hfound : (files.look? path).isNone = false := by
    obtain ⟨stamp, hlook⟩ := FileTree.read_eq_ok_iff.mp hread
    rw [hlook]
    rfl
  have htable : columnsOf false content = .ok (columns.map Column.written) := by
    rw [columnsOf.eq_def]
    dsimp only
    rw [hdecode]
    dsimp only
    rw [Table.ofText, hgiven]
    rfl
  rw [readGold, hfound, hread, hpath]
  dsimp only
  rw [htable]
  rfl

/-- A file with columns of words lists what is filled in on its rows as they are written back, and this
is what is filled in on the rows of the file if and only if both are the same pairs.  The rows that make
a difference are those of which neither cell is white space and one is written back as another text, as
an empty cell is. -/
theorem readGold_of_words (h : IsGoldFile files path columns queries expected) :
    let rows := rowsOf queries expected
    let written := rows.map (shownRow queries expected)
    if rows ≠ [] ∧ AreAmbiguous columns then readGold files path = .error .ambiguousColumns
    else ∃ gold, readGold files path = .ok gold ∧ gold.Lists (written.filterMap filledIn?) ∧
      (gold.Lists (rows.filterMap filledIn?) ↔
        SamePairs (written.filterMap filledIn?) (rows.filterMap filledIn?)) ∧
      ∀ row ∈ rows, filledIn? (shownRow queries expected row) = filledIn? row ↔
        (∃ cell ∈ [row.1, row.2], cell ≠ "" ∧ Text.trim cell = "") ∨
          Text.trim (shown queries.cells row.1) = Text.trim row.1 ∧
            Text.trim (shown expected.cells row.2) = Text.trim row.2 := by
  intro rows written
  rw [readGold_of_holdsColumns h.not_workbook h.holds,
    goldOf_written h.queries_eq h.expected_eq h.queryWords h.expectedWords]
  split_ifs with hambiguous
  · rfl
  · have hlists := Gold.lists_addRows written
    exact ⟨_, rfl, hlists, hlists.iff_samePairs, fun row _ => filledIn?_shownRow_iff row⟩

section Sample

/-- A file of some text. -/
def goldFiles (text : String) : FileTree :=
  ⟨[(["gold.csv"], .file (.bytes (Text.encode text)) 0), ([], .folder 0)], [], 1⟩

def goldPath : Path :=
  ⟨"", ["gold.csv"]⟩

theorem read_goldFiles (text : String) :
    (goldFiles text).read goldPath = .ok (.bytes (Text.encode text)) :=
  FileTree.read_eq_ok_iff.mpr ⟨0, FileTree.look?_of_home_nil rfl rfl rfl (by decide)⟩

/-- A file with two columns that are named for the queries and the expected names. -/
theorem isGoldFile_of_headers {text first second : String} {names names' : List String}
    (hfirst : Text.lower (Text.trim first) = "query")
    (hsecond : Text.lower (Text.trim second) = "expected")
    (hdecode : Text.decodeInChunks (Text.encode text) = .ok text.toList)
    (hgiven : givenColumns text.toList = .ok [⟨.text first, names⟩, ⟨.text second, names'⟩])
    (hwords : ∀ cell ∈ names ++ names', cell.toList.head?.all (!Table.isLead ·)) :
    IsGoldFile (goldFiles text) goldPath [⟨.text first, names⟩, ⟨.text second, names'⟩]
      ⟨.text first, names⟩ ⟨.text second, names'⟩ where
  not_workbook := by decide
  holds := ⟨_, text.toList, read_goldFiles text, hdecode, hgiven⟩
  queries_eq := by simp [Column.goesBy, Value.asText, hfirst, hsecond]
  expected_eq := by simp [Column.goesBy, Value.asText, hfirst, hsecond]
  queryWords := Table.areWords_of_leads fun cell hcell => hwords cell (List.mem_append_left _ hcell)
  expectedWords :=
    Table.areWords_of_leads fun cell hcell => hwords cell (List.mem_append_right _ hcell)

theorem lower_trim_headers :
    (∀ header ∈ ["query", "Query"], Text.lower (Text.trim header) = "query") ∧
      ∀ header ∈ ["EXPECTED", "Expected"], Text.lower (Text.trim header) = "expected" := by
  decide +kernel

/-- A table with two expected names for one query, and one for another. -/
def fullText : String :=
  "query,EXPECTED\nLenght,Length\nLenght,Len\nWidht,Width\n"

def fullQueries : Column :=
  ⟨.text "query", ["Lenght", "Lenght", "Widht"]⟩

def fullExpected : Column :=
  ⟨.text "EXPECTED", ["Length", "Len", "Width"]⟩

theorem isGoldFile_full : IsGoldFile (goldFiles fullText) goldPath [fullQueries, fullExpected]
    fullQueries fullExpected :=
  isGoldFile_of_headers (lower_trim_headers.1 _ (by simp)) (lower_trim_headers.2 _ (by simp))
    (by cbv) (by cbv) (by decide)

/-- A table whose last row has no expected name. -/
def sparseText : String :=
  "Query,Expected\nLenght,Length\nWidht,\n"

def sparseQueries : Column :=
  ⟨.text "Query", ["Lenght", "Widht"]⟩

def sparseExpected : Column :=
  ⟨.text "Expected", ["Length", ""]⟩

theorem isGoldFile_sparse : IsGoldFile (goldFiles sparseText) goldPath [sparseQueries, sparseExpected]
    sparseQueries sparseExpected :=
  isGoldFile_of_headers (lower_trim_headers.1 _ (by simp)) (lower_trim_headers.2 _ (by simp))
    (by cbv) (by cbv) (by decide)

theorem readGold_of_words_full :
    IsGoldFile (goldFiles fullText) goldPath [fullQueries, fullExpected] fullQueries fullExpected ∧
      ∃ gold, readGold (goldFiles fullText) goldPath = .ok gold ∧
        gold.Lists [("Lenght", "Length"), ("Lenght", "Len"), ("Widht", "Width")] := by
  have hread := readGold_of_words isGoldFile_full
  have hclear : ¬AreAmbiguous [fullQueries, fullExpected] := by decide
  have hpairs : ((rowsOf fullQueries fullExpected).map (shownRow fullQueries fullExpected)).filterMap
      filledIn? = [("Lenght", "Length"), ("Lenght", "Len"), ("Widht", "Width")] := by decide +kernel
  dsimp only at hread
  rw [if_neg fun h => hclear h.2, hpairs] at hread
  obtain ⟨gold, hgold, hlists, -⟩ := hread
  exact ⟨isGoldFile_full, gold, hgold, hlists⟩

/-- A row without an expected name counts, though it is not filled in. -/
theorem not_readGold_lists_filledIn :
    ¬∀ (files : FileTree) (path : Path) (columns : List Column) (queries expected : Column),
      IsGoldFile files path columns queries expected → ¬AreAmbiguous columns →
        ∃ gold, readGold files path = .ok gold ∧
          gold.Lists ((rowsOf queries expected).filterMap filledIn?) := by
  intro hall
  have hclear : ¬AreAmbiguous [sparseQueries, sparseExpected] := by decide
  obtain ⟨gold, hread, hlists⟩ := hall _ _ _ _ _ isGoldFile_sparse hclear
  rw [readGold_of_holdsColumns isGoldFile_sparse.not_workbook isGoldFile_sparse.holds,
    goldOf_written isGoldFile_sparse.queries_eq isGoldFile_sparse.expected_eq
      isGoldFile_sparse.queryWords isGoldFile_sparse.expectedWords,
    if_neg fun h => hclear h.2] at hread
  obtain rfl := Except.ok.inj hread
  have hsame := (Gold.lists_addRows _).iff_samePairs.mp hlists
  exact absurd (hsame.2 ("Widht", "nan")) (by decide +kernel)

end Sample

end Files

end DidYouMean
