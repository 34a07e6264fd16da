import DidYouMean.Text.Blank
import DidYouMean.Text.LetterCase

/-!
# Normal form of a name

Two spellings of one name have the same normal form: letters in lower case, and neither low lines
nor white space.
-/

namespace DidYouMean.Name

/-- Whether the character only separates the words of a name. -/
def isSeparator (c : Char) : Bool :=
  c == '_' || Text.isBlank c

/-- The name in lower case, without separators. -/
def normalize (s : String) : String :=
  String.ofList ((Text.lowerChars s.toList).filter fun c => !isSeparator c)

end DidYouMean.Name
