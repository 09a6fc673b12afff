import MarkupTree.Concurrent.Renderer
/-! Utilities that answer at once, seen as ones that may suspend. -/

namespace MarkupTree

/-- A utility that may suspend, but does not. -/
def Concurrent.immediate (utility : MarkupTree.Utility) : Concurrent.Utility :=
  fun receiver arguments => .done (utility receiver arguments)

def Scope.concurrent (scope : Scope) : Concurrent.Scope where
  context := scope.context
  utilities := Fields.mapValues Concurrent.immediate scope.utilities
  props := scope.props
  depth := scope.depth
  deeper nodes props := .done (scope.deeper nodes props)

def Expr.Callee.concurrent : Expr.Callee → Concurrent.Callee
  | .render => .render
  | .utility name function => .utility name (Concurrent.immediate function)
  | .nobody name => .nobody name

def Extension.concurrent : Extension → Concurrent.Extension
  | .visibleIf => .visibleIf
  | .classShortcut transform => .classShortcut transform
  | .foreach => .foreach
  | .custom name change => .custom name fun scope node => .done (change scope.settled node)

def Renderer.concurrent (renderer : Renderer) : Concurrent.Renderer where
  components := renderer.components
  extensions := renderer.extensions.map Extension.concurrent
  context := renderer.context
  utilities := Fields.mapValues Concurrent.immediate renderer.utilities
  options := renderer.options

end MarkupTree
