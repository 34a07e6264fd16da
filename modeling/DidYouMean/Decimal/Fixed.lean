import DidYouMean.Decimal.Shortest

/-!
# Decimals with a fixed number of places

The exact value of a double, rounded to a number of decimal places.  A half goes to the even
neighbour.

## Main definitions

- `roundDiv`: the quotient of two numbers, rounded to a whole number
- `fixed`: a double with a fixed number of places
-/

namespace DidYouMean.Decimal

/-- `n / d` rounded to the nearest whole number, a half to the even one. -/
def roundDiv (n d : Nat) : Nat :=
  let q := n / d
  let r := n % d
  if 2 * r < d || (2 * r == d && q % 2 == 0) then q else q + 1

/-- A positive number of units of the last place, with the point before that many places. -/
def pointed (places units : Nat) : String :=
  let digits := (paddedDigits (places + 1) units).toList
  let whole := digits.length - places
  String.ofList (digits.take whole ++ '.' :: digits.drop whole)

/-- A double with a fixed number of places; `plusSign` puts a sign before positive numbers too. -/
def fixed (places : Nat) (plusSign : Bool) (x : Float) : String :=
  let sign (negative : Bool) := if negative then "-" else if plusSign then "+" else ""
  match Parts.ofFloat x with
  | .notANumber => sign false ++ "nan"
  | .infinite negative => sign negative ++ "inf"
  | .finite b =>
    sign b.negative ++ pointed places (roundDiv (b.numerator * Nat.pow 10 places) b.denominator)

end DidYouMean.Decimal
