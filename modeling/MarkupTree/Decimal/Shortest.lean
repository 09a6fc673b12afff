/-!
Shortest decimals of binary floating-point numbers: of the decimals that read back as the same
number, the one with the fewest digits, and of those the nearest.
-/

namespace MarkupTree.Decimal

structure Scientific where
  digits : Nat
  exponent : Int
  deriving DecidableEq, Repr

/-- Where a value goes that lies in the middle of two decimals. -/
inductive Tie where
  | even
  | up
  deriving DecidableEq, Repr

structure Ratio where
  above : Nat
  below : Nat

def ratio (mantissa : Nat) (exponent grid : Int) : Ratio where
  above := mantissa * Nat.pow 2 exponent.toNat * Nat.pow 10 (-grid).toNat
  below := Nat.pow 2 (-exponent).toNat * Nat.pow 10 grid.toNat

def digitCount (n : Nat) : Nat := (Nat.toDigits 10 n).length

def leadingExponent (mantissa : Nat) (exponent : Int) : Int :=
  if 0 ≤ exponent then (digitCount (mantissa * Nat.pow 2 exponent.toNat) : Int) - 1
  else digitCount (mantissa * Nat.pow 5 (-exponent).toNat) + exponent - 1

def trimZeros : Nat → Nat → Int → Scientific
  | 0, digits, exponent => ⟨digits, exponent⟩
  | steps + 1, digits, exponent =>
      if digits ≠ 0 ∧ digits % 10 = 0 then trimZeros steps (digits / 10) (exponent + 1)
      else ⟨digits, exponent⟩

/-- The nearer of the two neighbours on a grid, of those that read back as the same number. -/
def pick (tie : Tie) (value low high : Ratio) (closed : Bool) : Option Nat :=
  let down := value.above / value.below
  let up := down + 1
  let above := fun (candidate : Nat) =>
    if closed then low.above ≤ candidate * low.below else low.above < candidate * low.below
  let below := fun (candidate : Nat) =>
    if closed then candidate * high.below ≤ high.above else candidate * high.below < high.above
  let rest := 2 * (value.above - down * value.below)
  let upper := if rest = value.below then tie = .up ∨ down % 2 = 1 else value.below < rest
  if above down then
    if below up then some (if upper then up else down) else some down
  else if below up then some up
  else none

/-- The first grid with a hit wins; seventeen digits are always enough. -/
def search (tie : Tie) (mantissa : Nat) (exponent leading : Int) (narrow : Bool) :
    Nat → Nat → Scientific
  | 0, _ => ⟨mantissa, 0⟩
  | steps + 1, digits =>
      let grid := leading + 1 - digits
      let value := ratio (4 * mantissa) (exponent - 2) grid
      let low := ratio (4 * mantissa - if narrow then 1 else 2) (exponent - 2) grid
      let high := ratio (4 * mantissa + 2) (exponent - 2) grid
      match pick tie value low high (mantissa % 2 = 0) with
      | some found => trimZeros 17 found grid
      | none => search tie mantissa exponent leading narrow steps (digits + 1)

def leastMantissa : Nat := 0x10000000000000

/-- The shortest decimal of the positive number `mantissa * 2 ^ exponent`. -/
def shortest (tie : Tie) (mantissa : Nat) (exponent : Int) : Scientific :=
  search tie mantissa exponent (leadingExponent mantissa exponent)
    (mantissa = leastMantissa ∧ -1074 < exponent) 17 1

end MarkupTree.Decimal
