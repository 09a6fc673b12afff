import MarkupTree.Decimal.Reader
import MarkupTree.Text.Pieces
import MarkupTree.Value.Basic
/-! Properties of values, and dotted paths through them. -/

namespace MarkupTree.Value

def item? (items : List Value) (key : String) : Option Value :=
  (Decimal.index? key.toList).bind fun index => items[index]?

def child? : Value → String → Option Value
  | .object fields, key => Fields.find? fields key
  | .array items, key => item? items key
  | _, _ => none

def count (n : Nat) : Value := .number (Float.ofNat n)

/-- What a value holds under a key, or its length. -/
def get? : Value → String → Option Value
  | .object fields, key => Fields.find? fields key
  | .array items, key => if key = "length" then some (count items.length) else item? items key
  | .string text, key => if key = "length" then some (count text.length) else none
  | _, _ => none

def segments (path : String) : List String :=
  ((Text.pieces '.' path.toList).filter (· ≠ [])).map String.ofList

/-- Lengths are no parts of a value, so only a last step may ask for one. -/
def walk : Value → List String → Option Value
  | value, [] => some value
  | value, key :: rest =>
      match value.child? key with
      | some child => child.walk rest
      | none => if rest.isEmpty then value.get? key else none

/-- The value at a dotted path, where empty segments count for nothing. -/
def lookupPath (value : Value) (path : String) : Option Value := value.walk (segments path)

end MarkupTree.Value
