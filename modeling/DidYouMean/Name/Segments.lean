import DidYouMean.Text.Split

/-!
# Dotted names

A qualified name is a row of segments with dots between them.  The name of a generic type ends in
its type parameters, which begin with `<` or a grave accent.

## Main definitions

- `segments`: the segments of a name
- `lastSegment`: the part after the last dot
- `shortTypeName`: that part without type parameters
-/

namespace DidYouMean.Name

/-- The segments of a dotted name; there is always one at least. -/
def segments (s : String) : List String :=
  (Text.splitAt '.' s.toList).map String.ofList

/-- The characters after the last dot. -/
def lastSegmentChars (cs : List Char) : List Char :=
  (cs.reverse.takeWhile (· != '.')).reverse

/-- The part of a name after its last dot. -/
def lastSegment (s : String) : String :=
  String.ofList (lastSegmentChars s.toList)

/-- Whether the type parameters begin with the character. -/
def startsParameters (c : Char) : Bool :=
  c == '<' || c == '\x60'

/-- The part of a type's name after its last dot, without type parameters. -/
def shortTypeName (s : String) : String :=
  String.ofList ((lastSegmentChars s.toList).takeWhile fun c => !startsParameters c)

end DidYouMean.Name
