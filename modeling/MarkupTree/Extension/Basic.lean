import MarkupTree.Call.Apply
import MarkupTree.Expr.Eval
/-! Extensions: changes to a node before its own parts are looked at. -/

namespace MarkupTree

/-- What becomes of a node: it goes on, perhaps changed, or nothing is rendered for it. -/
inductive Verdict where
  | proceed (node : Node)
  | stop

/-- A change to nodes; hosts may bring their own. -/
inductive Extension where
  | visibleIf
  | classShortcut (transform : Option String)
  | foreach
  | custom (name : String) (change : Scope → Node → Except Fault Verdict)

def Extension.name : Extension → String
  | .visibleIf => "visibleIf"
  | .classShortcut _ => "classShortcut"
  | .foreach => "foreach"
  | .custom name _ => name

/-- The value of a field that an extension reads: a text is an expression, and calls are applied. -/
def Scope.valueOf (scope : Scope) : Value → Except Fault (Option Value)
  | .string source => scope.evaluateSoft source
  | value => scope.applyValue value

end MarkupTree
