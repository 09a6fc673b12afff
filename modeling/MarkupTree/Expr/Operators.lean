import MarkupTree.Decimal.Remainder
import MarkupTree.Expr.Basic
import MarkupTree.Fault
import MarkupTree.Text.Blank
import MarkupTree.Decimal.Reader
import MarkupTree.Value.Equality
/-! Operators on values that may be undefined. -/

namespace MarkupTree

def BinaryOperator.text : BinaryOperator → String
  | .add => "+"
  | .subtract => "-"
  | .multiply => "*"
  | .divide => "/"
  | .remainder => "%"
  | .strictEqual => "==="
  | .strictUnequal => "!=="
  | .equal => "=="
  | .unequal => "!="
  | .less => "<"
  | .atMost => "<="
  | .greater => ">"
  | .atLeast => ">="
  | .and => "&&"
  | .or => "||"

def UnaryOperator.text : UnaryOperator → String
  | .not => "!"
  | .negate => "-"

namespace Operand

def isTruthy : Option Value → Bool
  | none => false
  | some value => value.isTruthy

/-- Texts, arrays and objects make a sum a concatenation. -/
def isTextual : Option Value → Bool
  | some (.string _) | some (.array _) | some (.object _) => true
  | _ => false

def display : Option Value → String
  | none => "undefined"
  | some value => value.display

/-- A text that is no number reads as not-a-number, and a blank one as zero. -/
def numberOfText (text : String) : Float :=
  match Text.trim text.toList with
  | [] => 0
  | letters => (Decimal.read? letters).getD (0 / 0)

def numberOfFlag (flag : Bool) : Float := if flag then 1 else 0

def toNumber (operator : String) : Option Value → Except ExprFault Float
  | none => .ok (0 / 0)
  | some .null => .ok 0
  | some (.bool flag) => .ok (numberOfFlag flag)
  | some (.number n) => .ok n
  | some (.string text) => .ok (numberOfText text)
  | some (.array _) => .error (.cannotApply operator .array)
  | some (.object _) => .error (.cannotApply operator .object)

def strictEqual : Option Value → Option Value → Bool
  | none, none => true
  | some a, some b => a == b
  | _, _ => false

def isNullish : Option Value → Bool
  | none | some .null => true
  | _ => false

def equalsNumber (operand : Option Value) (n : Float) : Bool :=
  match toNumber "==" operand with
  | .ok m => m == n
  | .error _ => false

/--
Undefined and `null` equal each other, a number equals the texts that spell it, and a flag equals
what has its number.
-/
def looseEqual (left right : Option Value) : Bool :=
  if isNullish left || isNullish right then isNullish left && isNullish right
  else
    match left, right with
    | some (.number n), some (.string text) | some (.string text), some (.number n) =>
        n == numberOfText text
    | some (.bool flag), other | other, some (.bool flag) => equalsNumber other (numberOfFlag flag)
    | _, _ => strictEqual left right

def compareNumbers (a b : Float) : Option Ordering :=
  if a < b then some .lt else if b < a then some .gt else if a == b then some .eq else none

/-- Texts are compared by code points and everything else as numbers, where that is possible. -/
def compare (left right : Option Value) : Option Ordering :=
  match left, right with
  | some (.string a), some (.string b) => some (if a < b then .lt else if b < a then .gt else .eq)
  | _, _ =>
      match toNumber "<" left, toNumber "<" right with
      | .ok a, .ok b => compareNumbers a b
      | _, _ => none

def holds (test : Ordering → Bool) (ordering : Option Ordering) : Value :=
  .bool (ordering.any test)

def arithmetic (operator : BinaryOperator) (f : Float → Float → Float) (left right : Option Value) :
    Except ExprFault Value := do
  let a ← toNumber operator.text left
  let b ← toNumber operator.text right
  return .number (f a b)

def add (left right : Option Value) : Except ExprFault Value :=
  if isTextual left || isTextual right then .ok (.string (display left ++ display right))
  else arithmetic .add (· + ·) left right

/-- The divisor is looked at first, and must not be zero. -/
def divide (operator : BinaryOperator) (f : Float → Float → Float) (left right : Option Value) :
    Except ExprFault Value := do
  let divisor ← toNumber operator.text right
  if divisor == 0 then .error (.divisionByZero operator.text)
  else
    let dividend ← toNumber operator.text left
    return .number (f dividend divisor)

def unary : UnaryOperator → Option Value → Except ExprFault Value
  | .not, operand => .ok (.bool (!isTruthy operand))
  | .negate, operand => do return .number (-(← toNumber UnaryOperator.negate.text operand))

def binary (operator : BinaryOperator) (left right : Option Value) :
    Except ExprFault (Option Value) :=
  match operator with
  | .and => .ok (if isTruthy left then right else left)
  | .or => .ok (if isTruthy left then left else right)
  | .add => some <$> add left right
  | .subtract => some <$> arithmetic .subtract (· - ·) left right
  | .multiply => some <$> arithmetic .multiply (· * ·) left right
  | .divide => some <$> divide .divide (· / ·) left right
  | .remainder => some <$> divide .remainder Decimal.remainder left right
  | .strictEqual => .ok (some (.bool (strictEqual left right)))
  | .strictUnequal => .ok (some (.bool (!strictEqual left right)))
  | .equal => .ok (some (.bool (looseEqual left right)))
  | .unequal => .ok (some (.bool (!looseEqual left right)))
  | .less => .ok (some (holds Ordering.isLT (compare left right)))
  | .atMost => .ok (some (holds Ordering.isLE (compare left right)))
  | .greater => .ok (some (holds Ordering.isGT (compare left right)))
  | .atLeast => .ok (some (holds Ordering.isGE (compare left right)))

end Operand

end MarkupTree
