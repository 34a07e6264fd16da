import DidYouMean.Text.Ranges

/-!
# White space

The white space of Unicode, together with the four information separators U+001C to U+001F.

## Main definitions

- `isBlank`: whether a character is white space
- `trim`: a text without the white space at its ends
-/

namespace DidYouMean.Text

/-- The code points of all white-space characters. -/
def blankRanges : List (Nat × Nat) := [
    (0x09, 0x0D), (0x1C, 0x20), (0x85, 0x85), (0xA0, 0xA0), (0x1680, 0x1680), (0x2000, 0x200A),
    (0x2028, 0x2029), (0x202F, 0x202F), (0x205F, 0x205F), (0x3000, 0x3000)]

def isBlank (c : Char) : Bool :=
  inRanges blankRanges c.toNat

/-- The characters from the first to the last one that is not dropped. -/
def trimWhere (drop : Char → Bool) (cs : List Char) : List Char :=
  ((cs.dropWhile drop).reverse.dropWhile drop).reverse

/-- The characters from the first to the last one that is not white space. -/
def trimChars (cs : List Char) : List Char :=
  trimWhere isBlank cs

/-- The text without the white space at its ends. -/
def trim (s : String) : String :=
  String.ofList (trimChars s.toList)

end DidYouMean.Text
