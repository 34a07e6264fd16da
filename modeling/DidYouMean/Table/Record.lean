import DidYouMean.Text.Quoted

/-!
# Records of comma-separated text

A record is a line of fields with commas between them.  A field in double quotes may hold commas
and line ends, and a quote written twice.  Lines of blanks alone hold no record.

## Main definitions

- `Place`: where in a record a character stands
- `Scan.step`, `Scan.finish`: what a character does there, and what the end of the text does
- `records`: the records of a text
- `fitRecords`: the records padded to one width

## Design notes

A quote counts as one only at the start of a field.  What follows the closing quote belongs to the
field as it stands.  The line of a record is the number of lines ended so far; line ends in quotes
do not count.
-/

namespace DidYouMean.Table

/-- Where in a record a character stands. -/
inductive Place where
  | recordStart
  | afterReturn
  | blankLine
  | fieldStart
  | field
  | quotes
  | quoteInQuotes
  deriving Repr, DecidableEq

/-- The fields of a record and the number of its line. -/
structure Record where
  fields : List String
  line : Nat
  deriving Repr, DecidableEq

/-- What has been read of a text: the lines that have ended, the finished fields of the record and
the characters of the field that is being read, both from the last to the first. -/
structure Scan where
  place : Place
  line : Nat
  fields : List String
  chars : List Char
  deriving Repr, DecidableEq

namespace Scan

def start : Scan := ⟨.recordStart, 0, [], []⟩

def push (s : Scan) (c : Char) (place : Place) : Scan :=
  { s with place, chars := c :: s.chars }

/-- Ends the field.  What follows a null character is lost. -/
def endField (s : Scan) : Scan :=
  let text := String.ofList (s.chars.reverse.takeWhile (· != '\x00'))
  { s with place := .fieldStart, fields := text :: s.fields, chars := [] }

/-- The record that ends here. -/
def record (s : Scan) : Record :=
  ⟨s.fields.reverse, s.line + 1⟩

def nextLine (s : Scan) (place : Place) : Scan :=
  ⟨place, s.line + 1, [], []⟩

/-- Ends the field and the record. -/
def endRecord (s : Scan) (place : Place) : Scan × Option Record :=
  (s.nextLine place, some s.endField.record)

/-- A character of a field without quotes. -/
def stepField (s : Scan) (c : Char) : Scan × Option Record :=
  if c = '\n' then s.endRecord .recordStart
  else if c = '\r' then s.endRecord .afterReturn
  else if c = ',' then (s.endField, none)
  else (s.push c .field, none)

/-- The first character of a field. -/
def stepFieldStart (s : Scan) (c : Char) : Scan × Option Record :=
  if c = '"' then ({ s with place := .quotes }, none) else s.stepField c

/-- Whether the character leaves a line blank. -/
def isSpace (c : Char) : Bool :=
  c == ' ' || c == '\t'

/-- A character of a line that is blank so far. -/
def stepBlankLine (s : Scan) (c : Char) (other : Scan × Option Record) : Scan × Option Record :=
  if c = '\n' then (s.nextLine .recordStart, none)
  else if c = '\r' then (s.nextLine .afterReturn, none)
  else if isSpace c then (s.push c .blankLine, none)
  else other

def step (s : Scan) (c : Char) : Scan × Option Record :=
  match s.place with
  | .recordStart => s.stepBlankLine c (s.stepFieldStart c)
  | .afterReturn =>
    if c = '\n' then ({ s with place := .recordStart }, none)
    else s.stepBlankLine c (s.stepFieldStart c)
  | .blankLine => s.stepBlankLine c (s.stepField c)
  | .fieldStart => s.stepFieldStart c
  | .field => s.stepField c
  | .quotes =>
    if c = '"' then ({ s with place := .quoteInQuotes }, none) else (s.push c .quotes, none)
  | .quoteInQuotes => if c = '"' then (s.push c .quotes, none) else s.stepField c

/-- What the end of the text does: it may end a record, and it must not stand in quotes. -/
def finish (s : Scan) : Option Record × Option Nat :=
  match s.place with
  | .recordStart | .afterReturn | .blankLine => (none, none)
  | .fieldStart | .field | .quoteInQuotes => (some s.endField.record, none)
  | .quotes => (none, some s.line)

end Scan

/-- The records of the rest of a text, and the line after which quotes are left open, if any are. -/
def recordsFrom (s : Scan) : List Char → List Record × Option Nat
  | [] => (s.finish.1.toList, s.finish.2)
  | c :: rest =>
    let (s, found) := s.step c
    let (later, unclosed) := recordsFrom s rest
    (found.toList ++ later, unclosed)

/-- A text without the mark that may stand at its start. -/
def withoutMark : List Char → List Char
  | '\ufeff' :: rest => rest
  | cs => cs

/-- The records of a text, and the line after which quotes are left open, if any are. -/
def records (cs : List Char) : List Record × Option Nat :=
  recordsFrom .start (withoutMark cs)

/-- Why a text is no table. -/
inductive Malformed where
  | noColumns
  | tooManyFields (expected line found : Nat)
  | unclosedQuotes (line : Nat)
  deriving Repr, DecidableEq

def Malformed.message : Malformed → String
  | .noColumns => "No columns to parse from file"
  | .tooManyFields expected line found =>
    "Error tokenizing data. C error: Expected " ++ toString expected ++ " fields in line "
      ++ toString line ++ ", saw " ++ toString found ++ "\n"
  | .unclosedQuotes line =>
    "Error tokenizing data. C error: EOF inside string starting at row " ++ toString line

/-- The fields padded with empty ones. -/
def padded (width : Nat) (fields : List String) : List String :=
  fields ++ List.replicate (width - fields.length) ""

/-- The fields of records padded to a width that none may exceed. -/
def fitRecords (width : Nat) : List Record → Except Malformed (List (List String))
  | [] => .ok []
  | r :: rest =>
    if width < r.fields.length then .error (.tooManyFields width r.line r.fields.length)
    else (fitRecords width rest).map (padded width r.fields :: ·)

end DidYouMean.Table
