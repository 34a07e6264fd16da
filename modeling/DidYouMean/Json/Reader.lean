import DidYouMean.Json.Value

/-!
# Reading JSON

A reader of JSON text.  It accepts what the standard accepts, and `NaN`, `Infinity` and
`-Infinity` besides.  Every error names what was expected and where, counting characters.  A text
may have half of a surrogate pair in it, if an escape names one.

## Main definitions

- `Fault`: what can be wrong with a text
- `ReadError`: a fault and its position
- `read`, `readMarked`: the value of a text, without and with a byte order mark
- `ReadError.message`: the error with line, column and position

## Design notes

The functions pass on the position with the characters left, so that an error can tell where it
arose.  Nested values recurse on a bound; twice the length of the text is always enough, since of
two steps into a value one takes a character.
-/

namespace DidYouMean.Json

/-- What can be wrong with a text. -/
inductive Fault where
  | value
  | propertyName
  | colon
  | comma
  | extraData
  | unterminated
  | controlCharacter
  | escape
  | unicodeEscape
  | byteOrderMark
  deriving Repr, DecidableEq

/-- What the message says of a fault. -/
def Fault.wording : Fault → String
  | .value => "Expecting value"
  | .propertyName => "Expecting property name enclosed in double quotes"
  | .colon => "Expecting ':' delimiter"
  | .comma => "Expecting ',' delimiter"
  | .extraData => "Extra data"
  | .unterminated => "Unterminated string starting at"
  | .controlCharacter => "Invalid control character at"
  | .escape => "Invalid \\escape"
  | .unicodeEscape => "Invalid \\uXXXX escape"
  | .byteOrderMark => "Unexpected UTF-8 BOM (decode using utf-8-sig)"

/-- A fault, the characters before it, and the line and column where it is, both from one. -/
structure ReadError where
  fault : Fault
  position : Nat
  line : Nat
  column : Nat
  deriving Repr, DecidableEq

def ReadError.message (e : ReadError) : String :=
  e.fault.wording ++ ": line " ++ toString e.line ++ " column " ++ toString e.column
    ++ " (char " ++ toString e.position ++ ")"

/-- A fault at a position of the text being read. -/
structure FaultAt where
  fault : Fault
  position : Nat

/-- Adds the line and the column to a fault's position in a text. -/
def FaultAt.inText (e : FaultAt) (cs : List Char) : ReadError :=
  let before := cs.take e.position
  let lastLine := before.reverse.takeWhile (· != '\n')
  ⟨e.fault, e.position, before.count '\n' + 1, lastLine.length + 1⟩

/-- What is left of a text: the position and the characters from there on. -/
structure Rest where
  position : Nat
  chars : List Char

def Rest.skip (r : Rest) (n : Nat) : Rest :=
  ⟨r.position + n, r.chars.drop n⟩

def isSpace (c : Char) : Bool :=
  c == ' ' || c == '\t' || c == '\n' || c == '\r'

/-- Goes on to the next character that is not a space between tokens. -/
def Rest.skipSpace (r : Rest) : Rest :=
  r.skip (r.chars.takeWhile isSpace).length

/-- What a reading step gives: a result and what is left, or a fault. -/
abbrev Step (α : Type) := Except FaultAt (α × Rest)

def hexValue? (c : Char) : Option Nat :=
  if '0' ≤ c && c ≤ '9' then some (c.toNat - '0'.toNat)
  else if 'a' ≤ c && c ≤ 'f' then some (c.toNat - 'a'.toNat + 10)
  else if 'A' ≤ c && c ≤ 'F' then some (c.toNat - 'A'.toNat + 10)
  else none

/-- The value of four hexadecimal digits at the start of the characters. -/
def hexFour? : List Char → Option Nat
  | a :: b :: c :: d :: _ => do
    return (((← hexValue? a) * 16 + (← hexValue? b)) * 16 + (← hexValue? c)) * 16 + (← hexValue? d)
  | _ => none

/-- The character of a one-letter escape. -/
def escapeChar? : Char → Option Char
  | '"' => some '"'
  | '\\' => some '\\'
  | '/' => some '/'
  | 'b' => some '\x08'
  | 'f' => some '\x0c'
  | 'n' => some '\n'
  | 'r' => some '\r'
  | 't' => some '\t'
  | _ => none

/-- The code point of a high and a low surrogate; `none` if they do not make a pair. -/
def surrogatePair? (high low : Nat) : Option Nat :=
  if 0xD800 ≤ high && high ≤ 0xDBFF && 0xDC00 ≤ low && low ≤ 0xDFFF then
    some (0x10000 + (high - 0xD800) * 0x400 + (low - 0xDC00))
  else none

/-- Reads an escape whose backslash is at `r`: the character and how many characters it takes.  At
least one more character has to follow the four digits, if only the closing quote. -/
def readEscape (r : Rest) : Except FaultAt (Char × Nat) :=
  match r.chars.drop 1 with
  | 'u' :: digits =>
    match hexFour? digits with
    | some code =>
      if digits.length ≤ 4 then .error ⟨.unicodeEscape, r.position + 1⟩
      else
        let single := .ok (Text.ofCode code, 6)
        if 0xD800 ≤ code && code ≤ 0xDBFF then
          match digits.drop 4 with
          | '\\' :: 'u' :: more =>
            if more.length ≤ 4 then single
            else match hexFour? more with
              | some low => match surrogatePair? code low with
                | some pair => .ok (Char.ofNat pair, 12)
                | none => single
              | none => .error ⟨.unicodeEscape, r.position + 7⟩
          | _ => single
        else single
    | none => .error ⟨.unicodeEscape, r.position + 1⟩
  | c :: _ => match escapeChar? c with
    | some e => .ok (e, 2)
    | none => .error ⟨.escape, r.position⟩
  | [] => .error ⟨.escape, r.position⟩

/-- Reads the characters of a string up to its closing quote; `start` is the position of the
opening one, and `found` holds the characters so far, last first. -/
def readChars (start : Nat) : Nat → List Char → Rest → Step String
  | 0, _, _ => .error ⟨.unterminated, start⟩
  | steps + 1, found, r =>
    match r.chars with
    | [] => .error ⟨.unterminated, start⟩
    | '"' :: _ => .ok (String.ofList found.reverse, r.skip 1)
    | ['\\'] => .error ⟨.unterminated, start⟩
    | '\\' :: _ =>
      match readEscape r with
      | .ok (c, width) => readChars start steps (c :: found) (r.skip width)
      | .error e => .error e
    | c :: _ =>
      if c.toNat ≤ 0x1F then .error ⟨.controlCharacter, r.position⟩
      else readChars start steps (c :: found) (r.skip 1)

/-- Reads a string whose opening quote is at `r`. -/
def readString (r : Rest) : Step String :=
  readChars r.position r.chars.length [] (r.skip 1)

def isDigit (c : Char) : Bool :=
  '0' ≤ c && c ≤ '9'

def digitsValue (cs : List Char) : Nat :=
  cs.foldl (fun n c => n * 10 + (c.toNat - '0'.toNat)) 0

/-- The double nearest to `digits · 10 ^ exponent`. -/
def nearestFloat (digits : Nat) (exponent : Int) : Float :=
  let point := Decimal.digitCount digits + exponent
  if digits = 0 || point < -400 then 0.0
  else if point > 400 then 1.0 / 0.0
  else Float.ofScientific digits (decide (exponent < 0)) exponent.natAbs

/-- The digits of a fraction: a point and at least one digit. -/
def fractionDigits : List Char → Option (List Char)
  | '.' :: rest =>
    let digits := rest.takeWhile isDigit
    if digits.isEmpty then none else some digits
  | _ => none

/-- An exponent and how many characters it takes. -/
def exponentPart : List Char → Option (Int × Nat)
  | e :: rest =>
    if e == 'e' || e == 'E' then
      let (negative, signs) := match rest with
        | '-' :: _ => (true, 1)
        | '+' :: _ => (false, 1)
        | _ => (false, 0)
      let digits := (rest.drop signs).takeWhile isDigit
      if digits.isEmpty then none
      else
        let n : Int := digitsValue digits
        some (if negative then -n else n, 1 + signs + digits.length)
    else none
  | [] => none

/-- Reads a number without its sign. -/
def readUnsigned (negative : Bool) (start : Nat) (r : Rest) : Step Value :=
  let whole := match r.chars with
    | '0' :: _ => ['0']
    | cs => cs.takeWhile isDigit
  if whole.isEmpty then .error ⟨.value, start⟩
  else
    let r := r.skip whole.length
    let fraction := fractionDigits r.chars
    let r := r.skip ((fraction.map (·.length + 1)).getD 0)
    let power := exponentPart r.chars
    let r := r.skip ((power.map (·.2)).getD 0)
    if fraction.isNone && power.isNone then
      let n : Int := digitsValue whole
      .ok (.int (if negative then -n else n), r)
    else
      let places := fraction.getD []
      let magnitude :=
        nearestFloat (digitsValue (whole ++ places)) ((power.map (·.1)).getD 0 - places.length)
      .ok (.real (if negative then -magnitude else magnitude), r)

/-- The words that stand for values. -/
def words : List (String × Value) := [
  ("null", .null), ("true", .bool true), ("false", .bool false), ("NaN", .real (0.0 / 0.0)),
  ("Infinity", .real (1.0 / 0.0)), ("-Infinity", .real (-1.0 / 0.0))]

/-- Reads a word or a number. -/
def readPlain (r : Rest) : Step Value :=
  match words.find? fun (word, _) => word.toList.isPrefixOf r.chars with
  | some (word, v) => .ok (v, r.skip word.length)
  | none => match r.chars with
    | '-' :: _ => readUnsigned true r.position (r.skip 1)
    | _ => readUnsigned false r.position r

mutual

/-- Reads the value at `r`. -/
def readValue : Nat → Rest → Step Value
  | 0, r => .error ⟨.value, r.position⟩
  | bound + 1, r =>
    match r.chars with
    | '"' :: _ => (readString r).map fun (s, r) => (.text s, r)
    | '[' :: _ =>
      let r := (r.skip 1).skipSpace
      match r.chars with
      | ']' :: _ => .ok (.list [], r.skip 1)
      | _ => readItems bound [] r
    | '\x7b' :: _ =>
      let r := (r.skip 1).skipSpace
      match r.chars with
      | '\x7d' :: _ => .ok (.object [], r.skip 1)
      | _ => readFields bound [] r
    | _ => readPlain r

/-- Reads the items of a list from the item at `r` on; `found` holds those before, last first. -/
def readItems : Nat → List Value → Rest → Step Value
  | 0, _, r => .error ⟨.value, r.position⟩
  | bound + 1, found, r =>
    match readValue bound r with
    | .error e => .error e
    | .ok (v, r) =>
      let r := r.skipSpace
      match r.chars with
      | ']' :: _ => .ok (.list (v :: found).reverse, r.skip 1)
      | ',' :: _ => readItems bound (v :: found) (r.skip 1).skipSpace
      | _ => .error ⟨.comma, r.position⟩

/-- Reads the fields of an object from the key at `r` on; `found` holds those before. -/
def readFields : Nat → List (String × Value) → Rest → Step Value
  | 0, _, r => .error ⟨.propertyName, r.position⟩
  | bound + 1, found, r =>
    match r.chars with
    | '"' :: _ =>
      match readString r with
      | .error e => .error e
      | .ok (key, r) =>
        let r := r.skipSpace
        match r.chars with
        | ':' :: _ =>
          match readValue bound (r.skip 1).skipSpace with
          | .error e => .error e
          | .ok (v, r) =>
            let found := setField found key v
            let r := r.skipSpace
            match r.chars with
            | '\x7d' :: _ => .ok (.object found, r.skip 1)
            | ',' :: _ => readFields bound found (r.skip 1).skipSpace
            | _ => .error ⟨.comma, r.position⟩
        | _ => .error ⟨.colon, r.position⟩
    | _ => .error ⟨.propertyName, r.position⟩

end

def readWhole (cs : List Char) : Except FaultAt Value :=
  match readValue (2 * cs.length + 2) (Rest.mk 0 cs).skipSpace with
  | .error e => .error e
  | .ok (v, r) =>
    let r := r.skipSpace
    if r.chars.isEmpty then .ok v else .error ⟨.extraData, r.position⟩

/-- Reads a whole text, which must not start with a byte order mark. -/
def readUnmarked (cs : List Char) : Except FaultAt Value :=
  match cs with
  | '\uFEFF' :: _ => .error ⟨.byteOrderMark, 0⟩
  | _ => readWhole cs

/-- Drops the byte order mark at the start of a text, if there is one. -/
def withoutMark (cs : List Char) : List Char :=
  match cs with
  | '\uFEFF' :: rest => rest
  | _ => cs

def read (s : String) : Except ReadError Value :=
  (readUnmarked s.toList).mapError (·.inText s.toList)

/-- The value of a text that may start with a byte order mark, which does not count as a
character. -/
def readMarked (s : String) : Except ReadError Value :=
  let cs := withoutMark s.toList
  (readWhole cs).mapError (·.inText cs)

end DidYouMean.Json
