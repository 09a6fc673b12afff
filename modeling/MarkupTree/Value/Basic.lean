import MarkupTree.Decimal.Layout
import MarkupTree.Fields
/-! Runtime values: what contexts, props and expressions hold. -/

namespace MarkupTree

/-- A runtime value; objects name every field once. -/
inductive Value where
  | null
  | bool (flag : Bool)
  | number (n : Float)
  | string (text : String)
  | array (items : List Value)
  | object (fields : List (String × Value))

inductive Kind where
  | null
  | boolean
  | number
  | string
  | array
  | object
  deriving DecidableEq, Repr

def Kind.name : Kind → String
  | .null => "null"
  | .boolean => "boolean"
  | .number => "number"
  | .string => "string"
  | .array => "array"
  | .object => "object"

namespace Value

instance : Inhabited Value := ⟨.null⟩

def kind : Value → Kind
  | .null => .null
  | .bool _ => .boolean
  | .number _ => .number
  | .string _ => .string
  | .array _ => .array
  | .object _ => .object

def isNull : Value → Bool
  | .null => true
  | _ => false

/-- `null`, `false`, zero, not-a-number and the empty text are the only values that do not hold. -/
def isTruthy : Value → Bool
  | .null => false
  | .bool flag => flag
  | .number n => !(n == 0 || n.isNaN)
  | .string text => text != ""
  | .array _ | .object _ => true

/-- Values that hide a node: the empty array, and what does not hold. -/
def isBlank : Value → Bool
  | .array items => items.isEmpty
  | value => !value.isTruthy

def asString? : Value → Option String
  | .string text => some text
  | _ => none

def asArray? : Value → Option (List Value)
  | .array items => some items
  | _ => none

def asObject? : Value → Option (Fields Value)
  | .object fields => some fields
  | _ => none

mutual

def display : Value → String
  | .null => "null"
  | .bool flag => if flag then "true" else "false"
  | .number n => Decimal.display n
  | .string text => text
  | .array items => String.intercalate "," (displayItems items)
  | .object _ => "[object Object]"

def displayItems : List Value → List String
  | [] => []
  | item :: rest => (if item.isNull then "" else display item) :: displayItems rest

end

end Value

end MarkupTree
