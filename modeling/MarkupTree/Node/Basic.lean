import MarkupTree.Binding.Basic
/-! Component trees. -/

namespace MarkupTree

mutual

inductive Children where
  | text (content : String)
  | nodes (items : List Node)
  | call (call : Call)

/-- One node: what a tree says of its element, and further fields for extensions to interpret. -/
structure Node where
  element : Option String := none
  elementPath : Option String := none
  attributes : Option Bindings := none
  props : Option Bindings := none
  children : Option Children := none
  childrenPath : Option String := none
  childrenExpression : Option String := none
  closing : Option String := none
  fields : List (String × Value) := []

end

inductive Fragment where
  | one (node : Node)
  | many (nodes : List Node)

abbrev Registry := Fields Fragment

def Fragment.nodes : Fragment → List Node
  | .one node => [node]
  | .many nodes => nodes

namespace Node

instance : Inhabited Node := ⟨{}⟩

def ofElement (tag : String) : Node := { element := some tag }

def ofText (content : String) : Node := { children := some (.text content) }

def withText (node : Node) (content : String) : Node :=
  { node with children := some (.text content) }

def withChild (node child : Node) : Node :=
  match node.children with
  | some (.nodes items) => { node with children := some (.nodes (items ++ [child])) }
  | _ => { node with children := some (.nodes [child]) }

def withAttribute (node : Node) (key : String) (value : Value) : Node :=
  { node with attributes := some (Bindings.insertRaw (node.attributes.getD []) key value) }

def withProp (node : Node) (key : String) (value : Value) : Node :=
  { node with props := some (Bindings.insertRaw (node.props.getD []) key value) }

def withChildrenPath (node : Node) (path : String) : Node :=
  { node with childrenPath := some path }

def withChildrenExpression (node : Node) (source : String) : Node :=
  { node with childrenExpression := some source }

def withField (node : Node) (name : String) (value : Value) : Node :=
  { node with fields := Fields.insert node.fields name value }

def field? (node : Node) (name : String) : Option Value := Fields.find? node.fields name

def withoutField (node : Node) (name : String) : Node :=
  { node with fields := Fields.erase node.fields name }

def setAttribute (node : Node) (name : String) (value : Value) : Node :=
  { node with attributes := some (Bindings.set (node.attributes.getD []) name (.literal value)) }

end Node

end MarkupTree
