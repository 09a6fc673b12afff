import MarkupTree.Concurrent.Extension
import MarkupTree.Renderer
/-!
Rendering component trees where utilities may suspend. Nodes that stand side by side are waited for
together; the props, the extensions, the attributes and the children of one node come one after the
other.
-/

namespace MarkupTree.Concurrent

structure Renderer where
  components : Registry := []
  extensions : List Extension := []
  context : Value := .object []
  utilities : Fields Utility := []
  options : Options := {}

def boundContent (scope : Scope) (node : Node) : Deferred Fault String :=
  match node.childrenPath, node.childrenExpression with
  | some path, _ => pure (contentText (scope.lookup path))
  | none, some source => contentText <$> scope.evaluateSoft source
  | none, none => pure ""

def renderChildren (scope : Scope) (node : Node) : Deferred Fault String :=
  match node.children with
  | some (.text content) => if content = "" then boundContent scope node else pure content
  | some (.nodes items) => scope.deeper items scope.props
  | some (.call call) => contentText <$> scope.applyCall call
  | none => boundContent scope node

namespace Renderer

def scope (renderer : Renderer) (deeper : List Node → Value → Deferred Fault String) (depth : Nat)
    (props : Value) : Scope :=
  ⟨renderer.context, renderer.utilities, props, depth, deeper⟩

def renderElement (extensions : List Extension) (scope : Scope) (node : Node) :
    Deferred Fault String := do
  match ← Extension.applyAll scope extensions node with
  | .stop => return ""
  | .proceed changed =>
      let element := resolveElement scope.settled node changed
      let attributes ← scope.resolveOptional changed.attributes
      let content ← renderChildren scope changed
      return Html.compose element attributes content changed.closing

def nodeProps (scope : Scope) (node : Node) : Deferred Fault Value :=
  match node.props with
  | some bindings => Value.object <$> scope.resolve bindings
  | none => pure scope.props

def component? (renderer : Renderer) (node : Node) : Option Fragment :=
  node.element.bind (Fields.find? renderer.components)

def renderNode (renderer : Renderer) (outer : Scope) (node : Node) : Deferred Fault String := do
  let props ← nodeProps outer node
  match renderer.component? node with
  | some fragment => outer.renderWithProps fragment props
  | none =>
      match node.element.filter isComponentName with
      | some name => .done (.error (.componentNotFound name))
      | none => renderElement renderer.extensions (outer.withProps props) node

def renderLevels (renderer : Renderer) : Nat → List Node → Value → Deferred Fault String
  | 0, [], _ => pure ""
  | 0, node :: _, _ => .done (.error (.recursionLimit renderer.options.maxDepth node.element))
  | levels + 1, nodes, props => do
      let depth := renderer.options.maxDepth - levels
      let scope := renderer.scope (renderer.renderLevels levels) depth props
      let parts ← Deferred.join (renderer.renderNode scope) nodes
      return String.join parts

def renderNodes (renderer : Renderer) (depth : Nat) (nodes : List Node) (props : Value) :
    Deferred Fault String :=
  renderer.renderLevels (renderer.options.maxDepth + 1 - depth) nodes props

def render (renderer : Renderer) (fragment : Fragment) (props : Value) : Deferred Fault String :=
  renderer.renderNodes 0 fragment.nodes props

def rootScope (renderer : Renderer) (props : Value) : Scope :=
  renderer.scope (renderer.renderNodes 1) 0 props

end Renderer

end MarkupTree.Concurrent
