import MarkupTree.Binding.Resolve
import MarkupTree.Extension.Chain
import MarkupTree.Html
import MarkupTree.Options
import MarkupTree.Text.Case
/-!
Rendering component trees.

A node resolves its props in the scope around it. If its element names a component, the component is
rendered with these props; otherwise extensions change the node, and its element, attributes and
children are put together. Every rendering inside of another one runs one level deeper, so the depth
limit bounds them all.
-/

namespace MarkupTree

/-- All that a render depends on besides its nodes and their props. -/
structure Renderer where
  components : Registry := []
  extensions : List Extension := []
  context : Value := .object []
  utilities : Utilities := []
  options : Options := {}

/-- Names like `Button` ask for a component; `DIV` and `!DOCTYPE` do not. -/
def isComponentName (name : String) : Bool :=
  match name.toList with
  | [] => false
  | first :: rest => Text.isUppercase first && first :: rest != Text.upper (first :: rest)

def contentText : Option Value → String
  | none | some .null => ""
  | some value => value.display

/-- An element set by an extension wins over a looked-up one, and that one over the written one. -/
def resolveElement (scope : Scope) (written changed : Node) : Option String :=
  if changed.element ≠ written.element then changed.element
  else
    match changed.elementPath.bind scope.lookup with
    | some value => if value.isTruthy then some value.display else changed.element
    | none => changed.element

def boundContent (scope : Scope) (node : Node) : Except Fault String :=
  match node.childrenPath, node.childrenExpression with
  | some path, _ => .ok (contentText (scope.lookup path))
  | none, some source => contentText <$> scope.evaluateSoft source
  | none, none => .ok ""

/-- Empty text counts as no children, so that bound content still applies. -/
def renderChildren (scope : Scope) (node : Node) : Except Fault String :=
  match node.children with
  | some (.text content) => if content = "" then boundContent scope node else .ok content
  | some (.nodes items) => scope.deeper items scope.props
  | some (.call call) => contentText <$> scope.applyCall call
  | none => boundContent scope node

namespace Renderer

def scope (renderer : Renderer) (deeper : List Node → Value → Except Fault String) (depth : Nat)
    (props : Value) : Scope :=
  ⟨renderer.context, renderer.utilities, props, depth, deeper⟩

def renderElement (extensions : List Extension) (scope : Scope) (node : Node) :
    Except Fault String := do
  match ← Extension.applyAll scope extensions node with
  | .stop => return ""
  | .proceed changed =>
      let element := resolveElement scope node changed
      let attributes ← Bindings.resolveOptional scope changed.attributes
      let content ← renderChildren scope changed
      return Html.compose element attributes content changed.closing

/-- A node without props of its own inherits those around it. -/
def nodeProps (scope : Scope) (node : Node) : Except Fault Value :=
  match node.props with
  | some bindings => Value.object <$> bindings.resolve scope
  | none => .ok scope.props

def component? (renderer : Renderer) (node : Node) : Option Fragment :=
  node.element.bind (Fields.find? renderer.components)

def renderNode (renderer : Renderer) (outer : Scope) (node : Node) : Except Fault String := do
  let props ← nodeProps outer node
  match renderer.component? node with
  | some fragment => outer.renderWithProps fragment props
  | none =>
      match node.element.filter isComponentName with
      | some name => .error (.componentNotFound name)
      | none => renderElement renderer.extensions (outer.withProps props) node

/-- Renders nodes with so many levels left, the one that they are on included. -/
def renderLevels (renderer : Renderer) : Nat → List Node → Value → Except Fault String
  | 0, [], _ => .ok ""
  | 0, node :: _, _ => .error (.recursionLimit renderer.options.maxDepth node.element)
  | levels + 1, nodes, props => do
      let depth := renderer.options.maxDepth - levels
      let scope := renderer.scope (renderer.renderLevels levels) depth props
      let parts ← nodes.mapM (renderer.renderNode scope)
      return String.join parts

def renderNodes (renderer : Renderer) (depth : Nat) (nodes : List Node) (props : Value) :
    Except Fault String :=
  renderer.renderLevels (renderer.options.maxDepth + 1 - depth) nodes props

def render (renderer : Renderer) (fragment : Fragment) (props : Value) : Except Fault String :=
  renderer.renderNodes 0 fragment.nodes props

def rootScope (renderer : Renderer) (props : Value) : Scope :=
  renderer.scope (renderer.renderNodes 1) 0 props

def quotedNames (names : List String) : String :=
  "[" ++ String.intercalate ", " (names.map Text.quotedName) ++ "]"

def description (renderer : Renderer) : String :=
  "Renderer \x7b components: " ++ toString renderer.components.length ++
    ", extensions: " ++ quotedNames (renderer.extensions.map Extension.name) ++
    ", utilities: Utilities \x7b names: " ++ quotedNames (Fields.names renderer.utilities) ++
    " \x7d, options: RenderOptions \x7b max_depth: " ++ toString renderer.options.maxDepth ++
    " \x7d \x7d"

end Renderer

end MarkupTree
