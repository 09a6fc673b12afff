import MarkupTree.Decimal.Integer
import MarkupTree.Json.Printer
import MarkupTree.Value.Basic
/-! Values as JSON documents, both ways. -/

namespace MarkupTree.Value

mutual

/-- A name that is written twice keeps its first place and its last value. -/
def ofJson : Json → Value
  | .null => .null
  | .bool flag => .bool flag
  | .integer n => .number (Float.ofInt n)
  | .number n => .number n
  | .string text => .string text
  | .array items => .array (ofJsonItems items)
  | .object entries => .object (Fields.collect (ofJsonEntries entries))

def ofJsonItems : List Json → List Value
  | [] => []
  | item :: rest => ofJson item :: ofJsonItems rest

def ofJsonEntries : List (String × Json) → List (String × Value)
  | [] => []
  | (name, json) :: rest => (name, ofJson json) :: ofJsonEntries rest

end

/-- Small integers are written as such, and what is not finite has no JSON text of its own. -/
def numberToJson (n : Float) : Json :=
  match Decimal.integer? n with
  | some k => .integer k
  | none => if n.isFinite then .number n else .null

mutual

def toJson : Value → Json
  | .null => .null
  | .bool flag => .bool flag
  | .number n => numberToJson n
  | .string text => .string text
  | .array items => .array (toJsonItems items)
  | .object fields => .object (toJsonEntries fields)

def toJsonItems : List Value → List Json
  | [] => []
  | item :: rest => toJson item :: toJsonItems rest

def toJsonEntries : List (String × Value) → List (String × Json)
  | [] => []
  | (name, value) :: rest => (name, toJson value) :: toJsonEntries rest

end

def jsonText (value : Value) : String := value.toJson.print

end MarkupTree.Value
