import MarkupTree.Node.Basic
/-!
Component trees as JSON documents, both ways. The names of the slots of a node are its own and stand
at most once; every other name is a field for extensions.
-/

namespace MarkupTree

inductive Slot where
  | element
  | elementPath
  | attributes
  | props
  | children
  | childrenPath
  | childrenExpression
  | closing
  deriving DecidableEq, Repr

def Slot.name : Slot → String
  | .element => "element"
  | .elementPath => "__element"
  | .attributes => "attributes"
  | .props => "props"
  | .children => "children"
  | .childrenPath => "__children"
  | .childrenExpression => "==children"
  | .closing => "closingCharacter"

def Slot.all : List Slot :=
  [.element, .elementPath, .attributes, .props, .children, .childrenPath, .childrenExpression,
    .closing]

def Slot.ofName? (name : String) : Option Slot := Slot.all.find? fun slot => slot.name = name

namespace Node

/-- A slot may be left open by `null`. -/
def bindingsSlot? : Json → Option (Option Bindings)
  | .null => some none
  | json => (Bindings.ofJson? json).map some

mutual

def ofJson? : Json → Option Node
  | .object entries =>
      if Slot.all.all fun slot => Json.once entries slot.name then
        (ofEntries? entries).map fun node => { node with fields := Fields.collect node.fields }
      else none
  | _ => none

def ofEntries? : List (String × Json) → Option Node
  | [] => some {}
  | (name, json) :: rest => do
      let node ← ofEntries? rest
      match Slot.ofName? name with
      | none => return { node with fields := (name, Value.ofJson json) :: node.fields }
      | some .element => return { node with element := ← json.optionalText? }
      | some .elementPath => return { node with elementPath := ← json.optionalText? }
      | some .attributes => return { node with attributes := ← bindingsSlot? json }
      | some .props => return { node with props := ← bindingsSlot? json }
      | some .children => return { node with children := ← childrenSlot? json }
      | some .childrenPath => return { node with childrenPath := ← json.optionalText? }
      | some .childrenExpression => return { node with childrenExpression := ← json.optionalText? }
      | some .closing => return { node with closing := ← json.optionalText? }

/-- Children are a text, a list of nodes, or else a call. -/
def childrenSlot? : Json → Option (Option Children)
  | .null => some none
  | .string text => some (some (.text text))
  | .array items =>
      match ofItems? items with
      | some nodes => some (some (.nodes nodes))
      | none => (Call.ofJson? (.array items)).map fun call => some (.call call)
  | json => (Call.ofJson? json).map fun call => some (.call call)

def ofItems? : List Json → Option (List Node)
  | [] => some []
  | item :: rest => do
      let node ← ofJson? item
      let nodes ← ofItems? rest
      return node :: nodes

end

def entryOf {α : Type} (slot : Slot) (toJson : α → Json) : Option α → List (String × Json)
  | none => []
  | some part => [(slot.name, toJson part)]

mutual

/-- The slots that are filled, in a fixed order, and then the fields. -/
def toJson : Node → Json
  | ⟨element, elementPath, attributes, props, children, childrenPath, childrenExpression, closing,
      fields⟩ =>
      .object (entryOf .element .string element ++ entryOf .elementPath .string elementPath ++
        entryOf .attributes Bindings.toJson attributes ++ entryOf .props Bindings.toJson props ++
        childrenEntry children ++ entryOf .childrenPath .string childrenPath ++
        entryOf .childrenExpression .string childrenExpression ++
        entryOf .closing .string closing ++ Value.toJsonEntries fields)

def childrenEntry : Option Children → List (String × Json)
  | none => []
  | some children => [(Slot.children.name, childrenToJson children)]

def childrenToJson : Children → Json
  | .text content => .string content
  | .nodes items => .array (toJsonItems items)
  | .call call => call.toJson

def toJsonItems : List Node → List Json
  | [] => []
  | node :: rest => toJson node :: toJsonItems rest

end

end Node

namespace Fragment

def ofJson? : Json → Option Fragment
  | .array items => (Node.ofItems? items).map .many
  | json => (Node.ofJson? json).map .one

def toJson : Fragment → Json
  | .one node => node.toJson
  | .many nodes => .array (Node.toJsonItems nodes)

end Fragment

namespace Registry

def ofEntries? : List (String × Json) → Option (List (String × Fragment))
  | [] => some []
  | (name, json) :: rest => do
      let fragment ← Fragment.ofJson? json
      let others ← ofEntries? rest
      return (name, fragment) :: others

def ofJson? : Json → Option Registry
  | .object entries => (ofEntries? entries).map Fields.collect
  | _ => none

def toJson (registry : Registry) : Json := .object (Fields.mapValues Fragment.toJson registry)

end Registry

end MarkupTree
