import MarkupTree.Fault
import MarkupTree.Node.Basic
import MarkupTree.Utility.Basic
import MarkupTree.Value.Path
/-! What bindings, expressions and extensions see while a node renders. -/

namespace MarkupTree

/-- The data that a node can see, and how it renders other nodes. -/
structure Scope where
  context : Value
  utilities : Utilities
  props : Value
  depth : Nat
  /-- Renders nodes with given props one level below. -/
  deeper : List Node → Value → Except Fault String

namespace Scope

def withProps (scope : Scope) (props : Value) : Scope := { scope with props := props }

def receiver (scope : Scope) : Receiver := ⟨scope.context, scope.props⟩

def hasProp (scope : Scope) (name : String) : Bool :=
  match scope.props with
  | .object fields => Fields.has fields name
  | _ => false

/--
The value at a dotted path. `context` and `props` name their roots; any other path starts in the
props if they have a field of its first name, and in the context if not.
-/
def lookup (scope : Scope) (path : String) : Option Value :=
  let (root, rest) := match Text.cut? '.' path.toList with
    | some (before, behind) => (String.ofList before, String.ofList behind)
    | none => (path, "")
  if root = "context" then scope.context.lookupPath rest
  else if root = "props" then scope.props.lookupPath rest
  else if scope.hasProp root then scope.props.lookupPath path
  else scope.context.lookupPath path

def render (scope : Scope) (fragment : Fragment) : Except Fault String :=
  scope.deeper fragment.nodes .null

def renderWithProps (scope : Scope) (fragment : Fragment) (props : Value) : Except Fault String :=
  scope.deeper fragment.nodes props

end Scope

end MarkupTree
