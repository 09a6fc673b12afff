import MarkupTree.Extension.Basic
/-! Nodes that repeat a template for every item of an array. -/

namespace MarkupTree.Foreach

def field : String := "foreach"

def parts : Value → Except Fault (Value × Value)
  | .array [source, template] => .ok (source, template)
  | other => .error (.invalidTree (.iterationShape other.kind))

/-- The items of a source; none where it is undefined or `null`. -/
def items (source : Value) : Option Value → Except Fault (List Value)
  | none | some .null => .ok []
  | some (.array found) => .ok found
  | some other => .error (.iterationSource source.display other.kind)

/-- An item is seen as `value`, beside its own fields if it is an object. -/
def itemProps (item : Value) : Value :=
  match item with
  | .object fields => .object (Fields.insert fields "value" item)
  | _ => .object [("value", item)]

def template (value : Value) : Except Fault Fragment :=
  match Fragment.ofValue value with
  | .ok fragment => .ok fragment
  | .error cause => .error (.invalidTree (.iterationTemplate cause))

/-- The contents for the items one after the other become the children of the node. -/
def apply (scope : Scope) (node : Node) : Except Fault Verdict :=
  match node.field? field with
  | none => .ok (.proceed node)
  | some declaration => do
      let (source, body) ← parts declaration
      let value ← scope.valueOf source
      let found ← items source value
      let fragment ← template body
      let contents ← found.mapM fun item => scope.renderWithProps fragment (itemProps item)
      return .proceed ((node.withoutField field).withText (String.join contents))

end MarkupTree.Foreach
