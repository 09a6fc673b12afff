import MarkupTree.Fields
/-! JSON documents: integers apart from other numbers, and objects with their entries in order. -/

namespace MarkupTree

/-- A document, with the entries of its objects as they were written. -/
inductive Json where
  | null
  | bool (flag : Bool)
  | integer (n : Int)
  | number (n : Float)
  | string (text : String)
  | array (items : List Json)
  | object (entries : List (String × Json))

namespace Json

mutual

/-- Every name once, at its first place and with its last value. -/
def settle : Json → Json
  | .array items => .array (settleItems items)
  | .object entries => .object (Fields.collect (settleEntries entries))
  | json => json

def settleItems : List Json → List Json
  | [] => []
  | item :: rest => settle item :: settleItems rest

def settleEntries : List (String × Json) → List (String × Json)
  | [] => []
  | (name, json) :: rest => (name, settle json) :: settleEntries rest

end

def entry : Json → String → Json
  | .object entries, name => (entries.lookup name).getD .null
  | _, _ => .null

def asString? : Json → Option String
  | .string text => some text
  | _ => none

def optionalText? : Json → Option (Option String)
  | .null => some none
  | .string text => some (some text)
  | _ => none

def once (entries : List (String × Json)) (name : String) : Bool :=
  (entries.filter fun entry => entry.1 = name).length ≤ 1

end Json

end MarkupTree
