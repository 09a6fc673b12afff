import MarkupTree.Extension.Basic
/-! Nodes under a condition. -/

namespace MarkupTree.VisibleIf

def field : String := "visibleIf"

def isVisible : Option Value → Bool
  | none => false
  | some value => !value.isBlank

/-- Drops a node whose condition is undefined or blank. -/
def apply (scope : Scope) (node : Node) : Except Fault Verdict :=
  match node.field? field with
  | none => .ok (.proceed node)
  | some condition => do
      let value ← scope.valueOf condition
      return if isVisible value then .proceed (node.withoutField field) else .stop

end MarkupTree.VisibleIf
