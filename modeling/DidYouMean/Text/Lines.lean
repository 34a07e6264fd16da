import DidYouMean.Text.Split

/-!
# Lines

A line ends at a line feed, at a carriage return, or at both in this order; nothing else ends it.

## Main definitions

- `unifyLineEnds`: the text with a line feed for every line end
- `lines`: the lines of a text, without their ends
-/

namespace DidYouMean.Text

/-- The text with a line feed for every line end. -/
def unifyLineEnds : List Char → List Char
  | '\r' :: '\n' :: rest => '\n' :: unifyLineEnds rest
  | '\r' :: rest => '\n' :: unifyLineEnds rest
  | c :: rest => c :: unifyLineEnds rest
  | [] => []

/-- The lines of a text; after the last line end there may be an empty one. -/
def lines (cs : List Char) : List (List Char) :=
  splitAt '\n' (unifyLineEnds cs)

end DidYouMean.Text
