import DidYouMean.Decimal.Binary

/-!
# Shortest decimals

The decimal with the fewest digits among those that read back as a given double; of two with
equally few digits the nearer one, and the even one if they are equally near.

## Main definitions

- `Scientific`: a decimal as digits and a power of ten
- `shortest`: the shortest decimal of a positive binary number
- `Layout`, `Layout.text`: how such a decimal is laid out

## Design notes

All numbers are whole multiples of a common unit, so each comparison is one of natural numbers.
Grids of 1, 2, … 17 digits are tried in turn.  Only the two grid points next to the number need
to be looked at: if any point of the grid reads back, one of these two does.
-/

namespace DidYouMean.Decimal

/-- The number `digits · 10 ^ exponent`. -/
structure Scientific where
  digits : Nat
  exponent : Int
  deriving Repr, DecidableEq

/-- The number of decimal digits of a number; zero has one. -/
def digitCount (n : Nat) : Nat :=
  if n < 10 then 1 else digitCount (n / 10) + 1

/-- Moves the zeros at the end of the digits into the exponent; `steps` bounds their number. -/
def Scientific.withoutZeros : Nat → Scientific → Scientific
  | 0, s => s
  | steps + 1, s =>
    if s.digits ≠ 0 && s.digits % 10 == 0 then
      withoutZeros steps ⟨s.digits / 10, s.exponent + 1⟩
    else s

/-- The least power of ten above the fraction `n / d` below one, tried from `10 ^ (-zeros)`
downwards. -/
def pointBelowOne (n d : Nat) : Nat → Nat → Int
  | 0, zeros => -zeros
  | steps + 1, zeros =>
    if n * Nat.pow 10 (zeros + 1) ≥ d then -zeros else pointBelowOne n d steps (zeros + 1)

/-- The exponent of the least power of ten above the positive fraction `n / d`. -/
def decimalPoint (n d : Nat) : Int :=
  if n ≥ d then digitCount (n / d) else pointBelowOne n d 400 0

/-- A number and the interval of numbers that read back as it, as multiples of `unit`. -/
structure Interval where
  low : Nat
  value : Nat
  high : Nat
  closed : Bool

/-- Whether the interval holds the number. -/
def Interval.holds (i : Interval) (x : Nat) : Bool :=
  if i.closed then i.low ≤ x && x ≤ i.high else i.low < x && x < i.high

/-- The multiple of `step` in the interval that is nearest to its value, if there is one; of two
equally near ones the even multiple. -/
def Interval.nearest? (i : Interval) (step : Nat) : Option Nat :=
  let below := i.value / step
  match i.holds (below * step), i.holds ((below + 1) * step) with
  | false, false => none
  | true, false => some below
  | false, true => some (below + 1)
  | true, true =>
    let down := i.value - below * step
    let up := (below + 1) * step - i.value
    if down < up then some below
    else if up < down then some (below + 1)
    else if below % 2 == 0 then some below else some (below + 1)

/-- The numbers that read back as `b`, scaled by the factor: half way to each neighbour, the ends
included if the mantissa is even.  The unit is a quarter of the mantissa's last place. -/
def Binary.interval (b : Binary) (factor : Nat) : Interval where
  low := (4 * b.mantissa - if b.isLowestOfBinade then 1 else 2) * factor
  value := 4 * b.mantissa * factor
  high := (4 * b.mantissa + 2) * factor
  closed := b.mantissa % 2 == 0

/-- Tries grids of `count` and more digits, `steps` of them, below the decimal point `point`. -/
def shortestFrom (b : Binary) (point : Int) : Nat → Nat → Scientific
  | 0, count => ⟨0, point - count⟩
  | steps + 1, count =>
    let exponent := point - count
    let quarter := Nat.pow 2 (b.exponent - 2).toNat * Nat.pow 10 (-exponent).toNat
    let step := Nat.pow 10 exponent.toNat * Nat.pow 2 (2 - b.exponent).toNat
    match (b.interval quarter).nearest? step with
    | some digits => ⟨digits, exponent⟩
    | none => shortestFrom b point steps (count + 1)

/-- The shortest decimal of a positive binary number; seventeen digits are always enough. -/
def shortest (b : Binary) : Scientific :=
  let found := shortestFrom b (decimalPoint b.numerator b.denominator) 17 1
  found.withoutZeros 17

/-- How decimals are laid out: the exponents written with the point in its place, and the least
number of digits of any other exponent. -/
structure Layout where
  leastPositional : Int
  mostPositional : Int
  exponentDigits : Nat

/-- The digits of a number, with zeros in front up to the width. -/
def paddedDigits (width n : Nat) : String :=
  let digits := toString n
  String.ofList (List.replicate (width - digits.length) '0') ++ digits

/-- Lays out a positive decimal. -/
def Layout.magnitude (l : Layout) (s : Scientific) : String :=
  let digits := (toString s.digits).toList
  let point := digits.length + s.exponent
  let exponent := point - 1
  if l.leastPositional ≤ exponent && exponent < l.mostPositional then
    if point ≤ 0 then "0." ++ String.ofList (List.replicate (-point).toNat '0' ++ digits)
    else
      let whole := digits.take point.toNat ++ List.replicate (point.toNat - digits.length) '0'
      let fraction := digits.drop point.toNat
      String.ofList (whole ++ '.' :: if fraction.isEmpty then ['0'] else fraction)
  else
    let lead := match digits with
      | [d] => [d]
      | d :: rest => d :: '.' :: rest
      | [] => []
    let sign := if exponent < 0 then "e-" else "e+"
    String.ofList lead ++ sign ++ paddedDigits l.exponentDigits exponent.natAbs

/-- The text of a double. -/
def Layout.text (l : Layout) (x : Float) : String :=
  match Parts.ofFloat x with
  | .notANumber => "nan"
  | .infinite negative => if negative then "-inf" else "inf"
  | .finite b =>
    let magnitude := if b.mantissa = 0 then "0.0" else l.magnitude (shortest b)
    if b.negative then "-" ++ magnitude else magnitude

/-- Numbers in messages and answers: positional from `1e-4` up to, not including, `1e16`, and at
least two digits in any other exponent. -/
def plain : Layout := ⟨-4, 16, 2⟩

end DidYouMean.Decimal
