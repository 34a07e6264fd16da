import DidYouMean.Text.Printable
import DidYouMean.Text.Surrogate

/-!
# Quoted text

How messages show a text: between single quotes, or between double quotes if it holds a single
quote and no double one, with escapes for what cannot be shown.

## Main definitions

- `quoted`: the text between its quotes
- `escaped`: one character, as it stands between them
- `hexText`: a number in lower-case hexadecimal digits, padded with zeros
-/

namespace DidYouMean.Text

/-- The lowest `width` hexadecimal digits of a number. -/
def hexDigits : Nat → Nat → List Char
  | 0, _ => []
  | width + 1, n => hexDigits width (n / 16) ++ [Nat.digitChar (n % 16)]

/-- The lowest `width` hexadecimal digits of a number, as a text. -/
def hexText (width n : Nat) : String :=
  String.ofList (hexDigits width n)

/-- A character as it stands between the given quotes. -/
def escaped (quote c : Char) : List Char :=
  if c = quote || c = '\\' then ['\\', c]
  else if c = '\n' then ['\\', 'n']
  else if c = '\r' then ['\\', 'r']
  else if c = '\t' then ['\\', 't']
  else if isPrintable c then [c]
  else if c.toNat < 0x100 then '\\' :: 'x' :: hexDigits 2 c.toNat
  else if codeOf c < 0x10000 then '\\' :: 'u' :: hexDigits 4 (codeOf c)
  else '\\' :: 'U' :: hexDigits 8 (codeOf c)

/-- The quote that stands around a text. -/
def quoteMark (cs : List Char) : Char :=
  if cs.contains '\'' && !cs.contains '"' then '"' else '\''

def quoted (s : String) : String :=
  let mark := quoteMark s.toList
  String.ofList ([mark] ++ s.toList.flatMap (escaped mark) ++ [mark])

end DidYouMean.Text
