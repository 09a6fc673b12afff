import MarkupTree.Extension.Basic
/-!
Classes of a node, gathered from four fields into its `class` attribute: `class`, `__class`,
`==class` and `classList`, in this order.
-/

namespace MarkupTree.ClassShortcut

/-- `null` and `false` are no classes; any other value is its text. -/
def className : Value → Option String
  | .null | .bool false => none
  | value => some value.display

def conditional (scope : Scope) : List (String × Value) → Except Fault (List String)
  | [] => .ok []
  | (name, condition) :: rest => do
      let value ← scope.valueOf condition
      let others ← conditional scope rest
      return if Operand.isTruthy value then name :: others else others

def ofPlain (scope : Scope) : Option Value → Except Fault (List String)
  | some (.object conditions) => conditional scope conditions
  | some value => .ok (className value).toList
  | none => .ok []

def ofPath (scope : Scope) : Option Value → List String
  | some (.string path) => ((scope.lookup path).bind className).toList
  | _ => []

def ofExpression (scope : Scope) : Option Value → Except Fault (List String)
  | some (.string source) => do
      let value ← scope.evaluateSoft source
      return (value.bind className).toList
  | _ => .ok []

def ofList (scope : Scope) : Option Value → Except Fault (List String)
  | some (.object conditions) => conditional scope conditions
  | _ => .ok []

/-- The classes of a node; empty ones count for nothing. -/
def classes (scope : Scope) (node : Node) : Except Fault (List String) := do
  let plain ← ofPlain scope (node.field? "class")
  let path := ofPath scope (node.field? "__class")
  let expression ← ofExpression scope (node.field? "==class")
  let list ← ofList scope (node.field? "classList")
  return (plain ++ path ++ expression ++ list).filter (· ≠ "")

/-- A utility may expand the classes; where it fails they stay as they are. -/
def expand (scope : Scope) (transform : Option String) (joined : String) : Except Fault String :=
  match transform with
  | none => .ok joined
  | some name =>
      match Fields.find? scope.utilities name with
      | none => .error (.utilityNotFound name)
      | some utility =>
          match utility scope.receiver [.string joined] with
          | .ok value => .ok value.display
          | .error _ => .ok joined

def withoutFields (node : Node) : Node :=
  (((node.withoutField "class").withoutField "__class").withoutField "==class").withoutField
    "classList"

def apply (transform : Option String) (scope : Scope) (node : Node) : Except Fault Verdict := do
  let found ← classes scope node
  let bare := withoutFields node
  if found.isEmpty then return .proceed bare
  else
    let expanded ← expand scope transform (String.intercalate " " found)
    if expanded = "" then return .proceed bare
    else return .proceed (bare.setAttribute "class" (.string expanded))

end MarkupTree.ClassShortcut
