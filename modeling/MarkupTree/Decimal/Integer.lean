/-! Numbers that are integers. -/

namespace MarkupTree.Decimal

def integerLimit : Nat := 1000000000000000

/-- The integer below the limit that a number is, if it is one; a zero of either sign is `0`. -/
def integer? (n : Float) : Option Int :=
  match n.toModel.unpack with
  | .notANumber | .infinity _ => none
  | .zero _ => some 0
  | .finite sign mantissa exponent _ =>
      let above := mantissa * Nat.pow 2 exponent.toNat
      let below := Nat.pow 2 (-exponent).toNat
      if above % below = 0 ∧ above / below < integerLimit then
        some (sign.apply (above / below : Nat))
      else none

end MarkupTree.Decimal
