import DidYouMean.Text.Blank
import DidYouMean.Text.Digit

/-!
# Integers in text

An integer is an optional sign and decimal digits of any script, with white space around it; single
low lines may stand between digits.  The information separators do not count as white space here.
-/

namespace DidYouMean.Text

/-- Reads digits, adding them to the number read so far; each low line needs a digit on both
sides. -/
def readDigits (soFar : Nat) : List Char → Option Nat
  | [] => some soFar
  | '_' :: d :: rest => do readDigits (soFar * 10 + (← digitValue? d)) rest
  | d :: rest => do readDigits (soFar * 10 + (← digitValue? d)) rest

def readNat? : List Char → Option Nat
  | [] => none
  | d :: rest => do readDigits (← digitValue? d) rest

/-- Whether the character may stand around an integer. -/
def isMargin (c : Char) : Bool :=
  isBlank c && !('\x1c' ≤ c && c ≤ '\x1f')

def readInt? (s : String) : Option Int :=
  match trimWhere isMargin s.toList with
  | '-' :: rest => (readNat? rest).map fun n => -(n : Int)
  | '+' :: rest => (readNat? rest).map Int.ofNat
  | rest => (readNat? rest).map Int.ofNat

end DidYouMean.Text
