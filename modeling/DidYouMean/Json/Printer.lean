import DidYouMean.Json.Value

/-!
# Printing JSON

The text of a JSON value on one line, in ASCII: every other character is written as one escape,
or as two that make a surrogate pair; a lone surrogate is one escape.
-/

namespace DidYouMean.Json

/-- A sixteen-bit unit as an escape. -/
def unitEscape (unit : Nat) : List Char :=
  '\\' :: 'u' :: Text.hexDigits 4 unit

/-- A character as it stands in a printed string. -/
def printedChar (c : Char) : List Char :=
  if c = '"' || c = '\\' then ['\\', c]
  else if c = '\n' then ['\\', 'n']
  else if c = '\r' then ['\\', 'r']
  else if c = '\t' then ['\\', 't']
  else if c = '\x08' then ['\\', 'b']
  else if c = '\x0c' then ['\\', 'f']
  else if 0x20 ≤ c.toNat && c.toNat < 0x7F then [c]
  else if Text.codeOf c < 0x10000 then unitEscape (Text.codeOf c)
  else
    let high := (Text.codeOf c - 0x10000) / 0x400
    let low := (Text.codeOf c - 0x10000) % 0x400
    unitEscape (0xD800 + high) ++ unitEscape (0xDC00 + low)

/-- A string between its quotes. -/
def printedString (s : String) : String :=
  "\"" ++ String.ofList (s.toList.flatMap printedChar) ++ "\""

/-- The words for the doubles that are no numbers; all others are printed as in messages. -/
def printedReal (x : Float) : String :=
  match Decimal.Parts.ofFloat x with
  | .notANumber => "NaN"
  | .infinite negative => if negative then "-Infinity" else "Infinity"
  | .finite _ => Decimal.plain.text x

mutual

/-- The text of a value. -/
def Value.print : Value → String
  | .null => "null"
  | .bool b => if b then "true" else "false"
  | .int n => toString n
  | .real x => printedReal x
  | .text s => printedString s
  | .list items => "[" ++ ", ".intercalate (printedItems items) ++ "]"
  | .object fields => "\x7b" ++ ", ".intercalate (printedFields fields) ++ "\x7d"

def printedItems : List Value → List String
  | [] => []
  | v :: rest => v.print :: printedItems rest

def printedFields : List (String × Value) → List String
  | [] => []
  | (key, v) :: rest => (printedString key ++ ": " ++ v.print) :: printedFields rest

end

end DidYouMean.Json
