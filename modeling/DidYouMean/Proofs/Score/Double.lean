import DidYouMean.Arith

/-!
# Doubles

What is needed of the arithmetic of doubles to apply laws that are stated for any arithmetic.

## Main statements

- `double_add_comm`: the sum of two doubles does not depend on their order
-/

namespace DidYouMean

open Float.Model in
theorem unpackedFloat_add_comm (spec : Format) (x y : UnpackedFloat) :
    UnpackedFloat.add spec x y = UnpackedFloat.add spec y x := by
  cases x with
  | notANumber => cases y <;> rfl
  | infinity s =>
    cases y with
    | infinity s' => cases s <;> cases s' <;> rfl
    | _ => rfl
  | zero s =>
    cases y with
    | zero s' => cases s <;> cases s' <;> rfl
    | _ => rfl
  | finite s m e _ =>
    cases y with
    | finite s' m' e' _ =>
      dsimp only [UnpackedFloat.add]
      rw [Int.min_comm e' e, Int.add_comm]
    | _ => rfl

/-- The sum of two doubles does not depend on their order. -/
theorem double_add_comm (x y : Float) : x + y = y + x := by
  have hmodel : x.toModel + y.toModel = y.toModel + x.toModel :=
    congrArg Float.Model.pack (unpackedFloat_add_comm _ _ _)
  exact congrArg Float.ofModel hmodel

end DidYouMean
