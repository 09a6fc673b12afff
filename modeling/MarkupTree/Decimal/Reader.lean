/-! Reading decimal texts, each as the nearest floating-point number. -/

namespace MarkupTree.Decimal

def isDigit (c : Char) : Bool := '0' ≤ c && c ≤ '9'

def digitsValue (digits : List Char) : Nat :=
  digits.foldl (fun value c => 10 * value + (c.toNat - '0'.toNat)) 0

/-- The number `digits * 10 ^ exponent`, rounded to the nearest one, ties to even. -/
def scaled (digits : Nat) (exponent : Int) : Float :=
  Float.ofModel (Float.Model.ofScientific digits exponent)

def spanDigits (cs : List Char) : List Char × List Char :=
  (cs.takeWhile isDigit, cs.dropWhile isDigit)

def sign : List Char → Bool × List Char
  | '-' :: rest => (true, rest)
  | '+' :: rest => (false, rest)
  | rest => (false, rest)

def exponent? : List Char → Option Int
  | [] => some 0
  | c :: rest =>
      let (negative, digits) := sign rest
      if (c = 'e' ∨ c = 'E') ∧ digits ≠ [] ∧ digits.all isDigit then
        some (if negative then -(digitsValue digits : Int) else digitsValue digits)
      else none

def negateIf (negative : Bool) (n : Float) : Float := if negative then -n else n

/-- Digits with an optional point and exponent; one digit must stand before or behind the point. -/
def unsigned? (cs : List Char) : Option Float :=
  let (whole, rest) := spanDigits cs
  let (fraction, rest) :=
    match rest with
    | '.' :: behind => spanDigits behind
    | _ => ([], rest)
  if whole = [] ∧ fraction = [] then none
  else (exponent? rest).map fun exponent =>
    scaled (digitsValue (whole ++ fraction)) (exponent - fraction.length)

def lowered (cs : List Char) : String := String.ofList (cs.map Char.toLower)

/-- A whole text as a number: a decimal, an infinity or `nan`, in any case and with any sign. -/
def read? (cs : List Char) : Option Float :=
  let (negative, body) := sign cs
  match lowered body with
  | "inf" | "infinity" => some (negateIf negative (1 / 0))
  | "nan" => some (0 / 0)
  | _ => (unsigned? body).map (negateIf negative)

def wordLimit : Nat := 0x10000000000000000

/-- An index: digits after an optional plus, in the range of a machine word. -/
def index? (cs : List Char) : Option Nat :=
  let digits := match cs with
    | '+' :: rest => rest
    | _ => cs
  let index := digitsValue digits
  if digits ≠ [] ∧ digits.all isDigit ∧ index < wordLimit then some index else none

end MarkupTree.Decimal
