import MarkupTree.Value.Basic
/-! Equality of values: structural, by floating-point rules for numbers, blind to field order. -/

namespace MarkupTree.Value

mutual

def equal : Value → Value → Bool
  | .null, .null => true
  | .bool a, .bool b => a == b
  | .number a, .number b => a == b
  | .string a, .string b => a == b
  | .array a, .array b => equalItems a b
  | .object a, .object b => a.length == b.length && within a b
  | _, _ => false

def equalItems : List Value → List Value → Bool
  | [], [] => true
  | a :: as, b :: bs => equal a b && equalItems as bs
  | _, _ => false

def within : List (String × Value) → List (String × Value) → Bool
  | [], _ => true
  | (name, value) :: rest, fields =>
      (match fields.lookup name with
        | some other => equal value other
        | none => false) && within rest fields

end

def equalFields (a b : Fields Value) : Bool := a.length == b.length && within a b

instance : BEq Value := ⟨equal⟩

end MarkupTree.Value
