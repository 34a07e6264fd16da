/-!
# Lone surrogates

Half of a surrogate pair is no character, but an escape can name one without its other half, and
texts keep it.

## Main definitions

- `ofCode`: the character of a code point
- `codeOf`: the code point of a character
- `isLoneSurrogate`: whether a character is half of a surrogate pair

## Design notes

A `Char` is never a surrogate, and so other characters stand for them: the last 2048 of plane 13.
None of these is assigned, and no text has them otherwise.  Like surrogates they are no letters,
digits or white space, have no other case, and are not printable.
-/

namespace DidYouMean.Text

def isSurrogateCode (code : Nat) : Bool :=
  0xD800 ≤ code && code ≤ 0xDFFF

/-- The character of a code point, or what stands for it. -/
def ofCode (code : Nat) : Char :=
  if isSurrogateCode code then Char.ofNat (code + 0xD2000) else Char.ofNat code

/-- The code point of a character, or the one for which it stands. -/
def codeOf (c : Char) : Nat :=
  if 0xDF800 ≤ c.toNat && c.toNat ≤ 0xDFFFF then c.toNat - 0xD2000 else c.toNat

def isLoneSurrogate (c : Char) : Bool :=
  isSurrogateCode (codeOf c)

end DidYouMean.Text
