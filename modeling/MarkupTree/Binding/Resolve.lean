import MarkupTree.Binding.Basic
import MarkupTree.Call.Apply
import MarkupTree.Expr.Eval
/-! The values of bindings: fields without a value are dropped. -/

namespace MarkupTree

/-- `null` and the empty text count as no value where they were computed. -/
def present : Option Value → Option Value
  | none | some .null => none
  | some (.string text) => if text = "" then none else some (.string text)
  | some value => some value

def Binding.resolve (scope : Scope) : Binding → Except Fault (Option Value)
  | .literal .null => .ok none
  | .literal value => .ok (some value)
  | .path dotted => .ok (present (scope.lookup dotted))
  | .expression source => present <$> scope.evaluateSoft source
  | .call found => present <$> scope.applyCall found

namespace Bindings

def resolveEach (scope : Scope) : Bindings → Except Fault (List (String × Value))
  | [] => .ok []
  | (name, binding) :: rest => do
      let value ← binding.resolve scope
      let others ← resolveEach scope rest
      match value with
      | some value => return (name, value) :: others
      | none => return others

/-- Of fields of one name, the first gives the place and the last the value. -/
def resolve (scope : Scope) (bindings : Bindings) : Except Fault (Fields Value) :=
  Fields.collect <$> resolveEach scope bindings

def resolveOptional (scope : Scope) : Option Bindings → Except Fault (Fields Value)
  | none => .ok []
  | some bindings => resolve scope bindings

end Bindings

end MarkupTree
