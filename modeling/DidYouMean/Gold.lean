import DidYouMean.Files.Tree
import DidYouMean.Table.Basic
import DidYouMean.Text.Blank
import DidYouMean.Text.LetterCase
import DidYouMean.Text.Utf8

/-!
# Gold tables

A gold table says which names are right for a query.  It is a table with a column for the query and
one for an expected name; a query may stand on several rows.

## Main definitions

- `Gold`: the expected names of each query
- `goldOf`: the expected names in the columns of a table
- `readGold`: the expected names in the file that a path leads to
-/

namespace DidYouMean

open Json (Value)
open Table (Column)

inductive GoldFault where
  | notFound (path : Path)
  | unreadable (error : FileError)
  | undecodable (error : Text.DecodeError)
  | noTable (error : Table.Malformed)
  | noWorkbook
  | missingColumns (found : List Value)
  | ambiguousColumns

def GoldFault.message : GoldFault → String
  | .notFound path => "File not found: " ++ path.shown
  | .unreadable e => e.message
  | .undecodable e => e.message
  | .noTable e => e.message
  | .noWorkbook =>
    "Excel file format cannot be determined, you must specify an engine manually."
  | .missingColumns found =>
    "Expected columns 'Query' and 'Expected'. Found: " ++ (Value.list found).shown
  | .ambiguousColumns => "too many values to unpack (expected 2)"

/-- The expected names of each query, in the order in which the queries were first seen. -/
abbrev Gold := List (String × List String)

def Gold.add (gold : Gold) (query expected : String) : Gold :=
  match gold.lookup query with
  | none => gold ++ [(query, [expected])]
  | some _ =>
    gold.map fun (q, names) =>
      if q == query && !names.contains expected then (q, names ++ [expected]) else (q, names)

/-- Adds the expected name of a row, if neither cell is blank. -/
def Gold.addRow (gold : Gold) (row : String × String) : Gold :=
  let query := Text.trim row.1
  let expected := Text.trim row.2
  if query = "" || expected = "" then gold else gold.add query expected

/-- Whether a column goes by the name, in any case and with any white space around it. -/
def Table.Column.goesBy (column : Column) (name : String) : Bool :=
  Text.lower (Text.trim column.name.asText) == name

/-- Whether a column is named so and not otherwise. -/
def Table.Column.isNamed (column : Column) (name : String) : Bool :=
  match column.name with
  | .text s => s == name
  | _ => false

/-- Whether another column has the very name by which the last one is found. -/
def isAmbiguous (columns : List Column) (folded name : String) : Bool :=
  let found := columns.filter (·.goesBy folded)
  found.dropLast.any (·.isNamed name)

/-- The expected names in the columns of a table.  Of several columns of a name the last counts. -/
def goldOf (columns : List Column) : Except GoldFault Gold :=
  match (columns.filter (·.goesBy "query")).getLast?,
      (columns.filter (·.goesBy "expected")).getLast? with
  | some queries, some expected =>
    let rows := queries.cells.zip expected.cells
    if !rows.isEmpty
        && (isAmbiguous columns "query" "Query" || isAmbiguous columns "expected" "Expected") then
      .error .ambiguousColumns
    else .ok (rows.foldl Gold.addRow [])
  | _, _ => .error (.missingColumns (columns.map (·.name)))

/-- Whether a path names a workbook. -/
def isWorkbookPath (path : Path) : Bool :=
  [".xlsx", ".xls"].contains (Text.lower path.ending)

/-- The columns of a file, which is read as a workbook or as text. -/
def columnsOf (asWorkbook : Bool) (content : Content) : Except GoldFault (List Column) :=
  match asWorkbook, content with
  | true, .workbook rows => .ok (Table.ofRows rows)
  | true, .bytes _ => .error .noWorkbook
  | false, content =>
    match Text.decodeInChunks content.toBytes with
    | .error e => .error (.undecodable e)
    | .ok cs => (Table.ofText cs).mapError .noTable

/-- The expected names in the file that a path leads to. -/
def readGold (files : FileTree) (path : Path) : Except GoldFault Gold :=
  if (files.look? path).isNone then .error (.notFound path)
  else match files.read path with
    | .error e => .error (.unreadable e)
    | .ok content => (columnsOf (isWorkbookPath path) content).bind goldOf

end DidYouMean
