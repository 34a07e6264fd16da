import DidYouMean.Decimal.Shortest
import DidYouMean.Text.Blank

/-!
# Columns of a table

The cells of a column are read as numbers or truth values if all of them can be, and are written
back in a form that is the same for all of them: `01` as `1`, or `1.0` if it is a number among
others with a point.  Cells that hold no value count for nothing in this, and are written `nan`.

## Main definitions

- `isMissing`: whether a cell holds no value
- `readWhole?`, `readReal?`, `readTruth?`: the value of a cell
- `writtenCells`: the cells of a column as they are written back

## Design notes

Whole numbers have 64 bits with a sign, or without one if none is negative and all cells hold a
value.  Beyond that they are exact, if all cells are whole numbers.
-/

namespace DidYouMean.Table

/-- The texts of a cell that hold no value. -/
def missingWords : List String := [
  "", "#N/A", "#N/A N/A", "#NA", "-1.#IND", "-1.#QNAN", "-NaN", "-nan", "1.#IND", "1.#QNAN",
  "<NA>", "N/A", "NA", "NULL", "NaN", "None", "n/a", "nan", "null"]

/-- Whether a cell holds no value. -/
def isMissing (cell : String) : Bool :=
  missingWords.contains cell

/-- How a cell without a value is written. -/
def missingText : String := "nan"

/-- Whether the character may stand around a number. -/
def isPadding (c : Char) : Bool :=
  c == ' ' || ('\t' ≤ c && c ≤ '\r')

/-- A text without padding. -/
def withoutPadding (cs : List Char) : List Char :=
  Text.trimWhere isPadding cs

/-- A text without its sign, and whether the sign is a minus. -/
def splitSign : List Char → Bool × List Char
  | '-' :: rest => (true, rest)
  | '+' :: rest => (false, rest)
  | cs => (false, cs)

/-- The number that some digits write. -/
def digitsValue (cs : List Char) : Nat :=
  cs.foldl (fun n c => n * 10 + (c.toNat - '0'.toNat)) 0

def readWhole? (cell : String) : Option Int :=
  let (negative, digits) := splitSign (withoutPadding cell.toList)
  if digits.isEmpty || digits.any (!·.isDigit) then none
  else some (if negative then -(digitsValue digits : Int) else digitsValue digits)

/-- How many digits of a number count; further ones are taken for zeros. -/
def countedDigits : Nat := 17

/-- The number that some digits write, in floating point. -/
def digitsReal (cs : List Char) : Float :=
  cs.foldl (fun x c => x * 10.0 + Float.ofNat (c.toNat - '0'.toNat)) 0.0

def tenTo (n : Nat) : Float :=
  Float.ofScientific 1 false n

/-- The greatest exponent of a power of ten. -/
def greatestExponent : Nat := 308

/-- Scales a number by a power of ten; `none` if the power or the result is too great. -/
def scaleByTen? (x : Float) (exponent : Int) : Option Float :=
  let scaled :=
    if 0 < exponent then x * tenTo exponent.toNat
    else if exponent.natAbs ≤ greatestExponent then x / tenTo exponent.natAbs
    else x / tenTo (exponent.natAbs - greatestExponent) / tenTo greatestExponent
  if (greatestExponent : Int) < exponent || scaled.isInf then none else some scaled

/-- Reads an exponent.  Without digits there is none, and the text is left as it is. -/
def splitExponent (cs : List Char) : Int × List Char :=
  match cs with
  | [] => (0, [])
  | e :: rest =>
    if e = 'e' || e = 'E' then
      let (negative, rest) := splitSign rest
      let digits := (rest.takeWhile Char.isDigit).take countedDigits
      if digits.isEmpty then (0, cs)
      else
        let n : Int := digitsValue digits
        (if negative then -n else n, rest.drop digits.length)
    else (0, cs)

/-- Reads a number with point and exponent. -/
def readPointed? (cs : List Char) : Option Float :=
  let (negative, rest) := splitSign (cs.dropWhile isPadding)
  let whole := rest.takeWhile Char.isDigit
  let rest := rest.dropWhile Char.isDigit
  let fraction := match rest with
    | '.' :: rest => rest.takeWhile Char.isDigit
    | _ => []
  let rest := match rest with
    | '.' :: rest => rest.dropWhile Char.isDigit
    | _ => rest
  let digits := (whole ++ fraction).take countedDigits
  if digits.isEmpty then none
  else
    let (exponent, rest) := splitExponent rest
    let cut : Int := (whole.length - countedDigits : Nat)
    let places : Int := digits.length - (min whole.length countedDigits : Nat)
    let x := digitsReal digits
    if rest.all isPadding then scaleByTen? (if negative then -x else x) (exponent + cut - places)
    else none

/-- Reads a number, which may be infinite. -/
def readReal? (cell : String) : Option Float :=
  match readPointed? cell.toList with
  | some x => some x
  | none =>
    let word := cell.toLower
    if ["inf", "+inf", "infinity", "+infinity"].contains word then some (1.0 / 0.0)
    else if ["-inf", "-infinity"].contains word then some (-1.0 / 0.0)
    else none

def readTruth? (cell : String) : Option Bool :=
  let word := cell.toLower
  if word = "true" then some true
  else if word = "false" then some false
  else none

/-- Writes a column whose cells can all be read; cells without a value are left out of it. -/
def writeAll? {β : Type} (read? : String → Option β) (write : β → String) (cells : List String) :
    Option (List String) :=
  cells.mapM fun cell => if isMissing cell then some missingText else (read? cell).map write

/-- Cells that are texts. -/
def writtenTexts (cells : List String) : List String :=
  cells.map fun cell => if isMissing cell then missingText else cell

/-- Cells that are numbers with a point, or truth values, or texts. -/
def writtenOthers (cells : List String) : List String :=
  match writeAll? readReal? Decimal.plain.text cells with
  | some written => written
  | none =>
    match writeAll? readTruth? (fun b => if b then "True" else "False") cells with
    | some written => written
    | none => writtenTexts cells

/-- The first cell that holds a value but no whole number of this range: the number, if it is
one. -/
def firstOutside? (inRange : Int → Bool) (cells : List String) : Option (Option Int) :=
  (cells.find? fun cell => !isMissing cell && !((readWhole? cell).any inRange)).map readWhole?

/-- Whether the number fits into 64 bits with a sign. -/
def fitsSigned (n : Int) : Bool :=
  -9223372036854775808 ≤ n && n < 9223372036854775808

/-- Whether the number is negative, or fits into 64 bits. -/
def isUnderTop (n : Int) : Bool :=
  n < 18446744073709551616

/-- Cells that are whole numbers of any size, or texts if one is not. -/
def writtenExact (cells : List String) : List String :=
  (writeAll? readWhole? toString cells).getD cells

/-- Cells of which one is a whole number that does not fit into 64 bits with a sign. -/
def writtenLarge (cells : List String) : List String :=
  match firstOutside? isUnderTop cells with
  | some none => writtenOthers cells
  | some (some _) => writtenExact cells
  | none =>
    let numbers := cells.filterMap readWhole?
    let hasLarge := numbers.any (9223372036854775808 ≤ ·)
    if hasLarge && (cells.any isMissing || numbers.any (· < 0)) then cells
    else writtenExact cells

/-- The cells of a column as they are written back. -/
def writtenCells (cells : List String) : List String :=
  match firstOutside? fitsSigned cells with
  | some none => writtenOthers cells
  | some (some _) => writtenLarge cells
  | none =>
    if cells.any isMissing then
      (writeAll? readWhole? (fun n => Decimal.plain.text (Float.ofInt n)) cells).getD cells
    else (writeAll? readWhole? toString cells).getD cells

end DidYouMean.Table
