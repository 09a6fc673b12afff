import MarkupTree.Decimal.Shortest
/-! The texts of a number: as a displayed value, and as a number of a JSON text. -/

namespace MarkupTree.Decimal

def zeros (count : Nat) : String := String.ofList (List.replicate count '0')

def positional (decimal : Scientific) : String :=
  let digits := Nat.toDigits 10 decimal.digits
  let point := digits.length + decimal.exponent
  if 0 ≤ decimal.exponent then String.ofList digits ++ zeros decimal.exponent.toNat
  else if 0 < point then
    String.ofList (digits.take point.toNat) ++ "." ++ String.ofList (digits.drop point.toNat)
  else "0." ++ zeros (-point).toNat ++ String.ofList digits

def exponential (decimal : Scientific) : String :=
  let digits := Nat.toDigits 10 decimal.digits
  let exponent := digits.length + decimal.exponent - 1
  let fraction := if digits.length ≤ 1 then "" else "." ++ String.ofList (digits.drop 1)
  let sign := if exponent < 0 then "-" else "+"
  String.ofList (digits.take 1) ++ fraction ++ "e" ++ sign ++ toString exponent.natAbs

def signText : Float.Model.UnpackedFloat.Sign → String
  | .negative => "-"
  | .positive => ""

/-- How a number appears in markup: zero has no sign, and no number has an exponent. -/
def display (n : Float) : String :=
  match n.toModel.unpack with
  | .notANumber => "NaN"
  | .infinity sign => signText sign ++ "Infinity"
  | .zero _ => "0"
  | .finite sign mantissa exponent _ =>
      signText sign ++ positional (shortest .up mantissa exponent)

/--
How a number appears in a JSON text: integral ones below `10 ^ 15` have no fraction, exponents
are written outside of `10 ^ -5` to `10 ^ 16`, and what is not finite is `null`.
-/
def jsonText (n : Float) : String :=
  match n.toModel.unpack with
  | .notANumber => "null"
  | .infinity _ => "null"
  | .zero _ => "0"
  | .finite sign mantissa exponent _ =>
      let decimal := shortest .even mantissa exponent
      let leading := digitCount decimal.digits + decimal.exponent - 1
      let text :=
        if leading < -5 ∨ 15 < leading then exponential decimal
        else if 0 ≤ decimal.exponent ∧ leading = 15 then positional decimal ++ ".0"
        else positional decimal
      signText sign ++ text

end MarkupTree.Decimal
