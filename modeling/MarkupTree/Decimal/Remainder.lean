/-! The exact remainder of two numbers, with the sign of the dividend. -/

namespace MarkupTree.Decimal

open Float.Model (UnpackedFloat)

def remainderUnits (mantissa : Nat) (exponent : Int) (divisor : Nat) (power : Int) : Nat × Int :=
  let unit := min exponent power
  (mantissa * Nat.pow 2 (exponent - unit).toNat % (divisor * Nat.pow 2 (power - unit).toNat), unit)

/-- The remainder is exact: both numbers are whole in the smaller of their units. -/
def remainder (dividend divisor : Float) : Float :=
  match dividend.toModel.unpack, divisor.toModel.unpack with
  | .notANumber, _ | _, .notANumber | .infinity _, _ | _, .zero _ => 0 / 0
  | .zero _, _ | _, .infinity _ => dividend
  | .finite sign mantissa exponent _, .finite _ divisor power _ =>
      let (rest, unit) := remainderUnits mantissa exponent divisor power
      if rest = 0 then Float.ofModel (Float.Model.pack (.zero sign))
      else
        Float.ofModel
          (Float.Model.pack (UnpackedFloat.round Float.Model.Format.binary64 sign rest unit))

end MarkupTree.Decimal
