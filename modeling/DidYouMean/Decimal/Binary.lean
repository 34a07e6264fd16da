/-!
# Binary numbers, taken apart

A double is a sign, a mantissa and a power of two.  Decimal texts are computed from these in
exact arithmetic on natural numbers.

## Main definitions

- `Binary`: sign, mantissa and exponent of a finite double
- `Parts`: what the bits of a double stand for
- `Binary.numerator`, `Binary.denominator`: the magnitude as a fraction
-/

namespace DidYouMean.Decimal

/-- The number `±mantissa · 2 ^ exponent`. -/
structure Binary where
  negative : Bool
  mantissa : Nat
  exponent : Int
  deriving Repr, DecidableEq

/-- What the bits of a double stand for. -/
inductive Parts where
  | finite (value : Binary)
  | infinite (negative : Bool)
  | notANumber
  deriving Repr, DecidableEq

/-- Takes the bits of a double apart: one sign bit, eleven exponent bits, 52 mantissa bits. -/
def Parts.ofBits (bits : Nat) : Parts :=
  let negative := bits / Nat.pow 2 63 % 2 == 1
  let scale : Nat := bits / Nat.pow 2 52 % Nat.pow 2 11
  let fraction : Nat := bits % Nat.pow 2 52
  if scale = 2047 then
    if fraction = 0 then .infinite negative else .notANumber
  else if scale = 0 then .finite ⟨negative, fraction, -1074⟩
  else .finite ⟨negative, fraction + Nat.pow 2 52, (scale : Int) - 1075⟩

def Parts.ofFloat (x : Float) : Parts :=
  .ofBits x.toBits.toNat

/-- The numerator of the magnitude over `denominator`. -/
def Binary.numerator (b : Binary) : Nat :=
  b.mantissa * Nat.pow 2 b.exponent.toNat

/-- A power of two over which the magnitude is a whole number. -/
def Binary.denominator (b : Binary) : Nat :=
  Nat.pow 2 (-b.exponent).toNat

/-- Whether the next smaller double is only half as far away as the next larger one. -/
def Binary.isLowestOfBinade (b : Binary) : Bool :=
  b.mantissa == Nat.pow 2 52 && b.exponent != -1074

end DidYouMean.Decimal
