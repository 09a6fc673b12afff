import MarkupTree.Extension.ClassShortcut
import MarkupTree.Extension.Foreach
import MarkupTree.Extension.VisibleIf
/-! Chains of extensions. -/

namespace MarkupTree.Extension

def apply (scope : Scope) (node : Node) : Extension → Except Fault Verdict
  | .visibleIf => VisibleIf.apply scope node
  | .classShortcut transform => ClassShortcut.apply transform scope node
  | .foreach => Foreach.apply scope node
  | .custom _ change => change scope node

/-- Each extension sees what the one before it left; the first stop ends the chain. -/
def applyAll (scope : Scope) : List Extension → Node → Except Fault Verdict
  | [], node => .ok (.proceed node)
  | extension :: rest, node => do
      match ← extension.apply scope node with
      | .proceed next => applyAll scope rest next
      | .stop => return .stop

def canonical : List Extension := [.visibleIf, .classShortcut none, .foreach]

end MarkupTree.Extension
