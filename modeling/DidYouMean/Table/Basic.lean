import DidYouMean.Json.Value
import DidYouMean.Table.Column
import DidYouMean.Table.Record

/-!
# Tables

A table is a row of columns, each with a name and its cells.  It is read from comma-separated text,
the first record of which holds the names, or from the rows of a workbook.

## Main definitions

- `Column`: a column
- `distinctNames`: names that tell columns apart
- `givenColumns`: the columns of a text with their cells as they stand there
- `ofText`: the table of a text
- `ofRows`: the table of the rows of a workbook
-/

namespace DidYouMean.Table

open Json (Value)

/-- A column with the texts of its cells. -/
structure Column where
  name : Value
  cells : List String

/-- A column with its cells as they are written back. -/
def Column.written (column : Column) : Column :=
  { column with cells := writtenCells column.cells }

/-- How often each name was used so far. -/
abbrev Uses := List (String × Nat)

/-- The first number from `n` on by which a name is told from all others. -/
def freeNumber (names : List Value) (name : String) (n : Nat) : Nat :=
  let taken := names.map (·.shown)
  ((List.range' n (names.length + 1)).find? fun k =>
    !taken.contains (Value.text (name ++ "." ++ toString k)).shown).getD n

/-- Makes the name at an index differ from those before: a number is added to a name used
already. -/
def renameAt (state : List Value × Uses) (index : Nat) : List Value × Uses :=
  let (names, uses) := state
  let name := names.getD index .null
  match uses.lookup name.shown with
  | none => (names, (name.shown, 1) :: uses)
  | some count =>
    let number := freeNumber names name.asText count
    let renamed := Value.text (name.asText ++ "." ++ toString number)
    (names.set index renamed, (renamed.shown, 1) :: (name.shown, number + 1) :: uses)

def isUnnamed : Value → Bool
  | .null => true
  | .text s => s == ""
  | _ => false

/-- The names of columns, made distinct.  A column without a name is named by its index; the names
that are given come first. -/
def distinctNames (given : List Value) : List Value :=
  let names := given.mapIdx fun i name =>
    if isUnnamed name then .text ("Unnamed: " ++ toString i) else name
  let unnamed (i : Nat) : Bool := isUnnamed (given.getD i .null)
  let indices := List.range given.length
  let order := indices.filter (!unnamed ·) ++ indices.filter unnamed
  (order.foldl renameAt (names, [])).1

/-- The columns of rows that all have the same width.  Columns before those with names are left
out. -/
def ofGrid (names : List Value) (rows : List (List String)) : List Column :=
  let lead := (rows.head?.map (·.length - names.length)).getD 0
  (distinctNames names).mapIdx fun i name =>
    ⟨name, rows.map fun row => row.getD (lead + i) ""⟩

/-- The columns of some records, the first of which holds the names.  The second one may have more
fields than there are names; later ones may not have more than it. -/
def ofRecords (header : Record) (rows : List Record) : Except Malformed (List Column) :=
  let names := header.fields.map Value.text
  match rows with
  | [] => .ok (ofGrid names [])
  | first :: _ =>
    (fitRecords (max header.fields.length first.fields.length) rows).map (ofGrid names)

/-- The columns of a text, with their cells as they stand in it. -/
def givenColumns (cs : List Char) : Except Malformed (List Column) :=
  let (found, unclosed) := records cs
  match found with
  | [] =>
    match unclosed with
    | some line => .error (.unclosedQuotes line)
    | none => .error .noColumns
  | header :: rows =>
    match ofRecords header rows, unclosed with
    | .error e, _ => .error e
    | .ok _, some line => .error (.unclosedQuotes line)
    | .ok columns, none => .ok columns

/-- The table of a text. -/
def ofText (cs : List Char) : Except Malformed (List Column) :=
  (givenColumns cs).map fun columns => columns.map Column.written

/-- A cell of a workbook: a number without a fraction is a whole number, and nothing is an empty
text. -/
def cellOf : Value → Value
  | .null => .text ""
  | .real x => if x.floor == x && x.abs < 1e15 then .int x.toInt64.toInt else .real x
  | v => v

def isEmptyCell : Value → Bool
  | .text s => s == ""
  | _ => false

/-- The cells up to the last one that is not empty. -/
def usedCells (row : List Value) : List Value :=
  ((row.map cellOf).reverse.dropWhile isEmptyCell).reverse

def isTruth : Value → Bool
  | .bool _ => true
  | _ => false

/-- Whether a cell of a workbook can stand in a column of numbers. -/
def isNumeric : Value → Bool
  | .bool _ | .int _ | .real _ => true
  | .text s => isMissing s
  | _ => false

/-- A truth value as a number. -/
def truthNumber : Value → Value
  | .bool b => .int (if b then 1 else 0)
  | v => v

/-- The texts of a workbook's column.  Truth values among numbers are numbers themselves. -/
def columnTexts (cells : List Value) : List String :=
  if cells.all isNumeric && !cells.all isTruth then
    cells.map fun v => (truthNumber v).asText
  else cells.map (·.asText)

/-- The table of the rows of a workbook.  Empty rows at the end do not count. -/
def ofRows (rows : List (List Value)) : List Column :=
  let used := ((rows.map usedCells).reverse.dropWhile (·.isEmpty)).reverse
  match used with
  | [] => []
  | header :: rows =>
    let width := (used.map (·.length)).foldl max 0
    let names := header ++ List.replicate (width - header.length) (.text "")
    (distinctNames names).mapIdx fun i name =>
      Column.written ⟨name, columnTexts (rows.map fun row => row.getD i (.text ""))⟩

end DidYouMean.Table
