import MarkupTree.Binding.Resolve
import MarkupTree.Concurrent.Eval
/-! Bindings and declared values where utilities may suspend; bindings are waited for together. -/

namespace MarkupTree.Concurrent.Scope

def resolveBinding (scope : Scope) : Binding → Deferred Fault (Option Value)
  | .literal .null => pure none
  | .literal value => pure (some value)
  | .path dotted => pure (present (scope.lookup dotted))
  | .expression source => present <$> scope.evaluateSoft source
  | .call found => present <$> scope.applyCall found

def withValues (bindings : Bindings) (values : List (Option Value)) : List (String × Value) :=
  (bindings.zip values).filterMap fun (entry, value) => value.map (entry.1, ·)

def resolve (scope : Scope) (bindings : Bindings) : Deferred Fault (Fields Value) := do
  let values ← Deferred.join (fun entry => scope.resolveBinding entry.2) bindings
  return Fields.collect (withValues bindings values)

def resolveOptional (scope : Scope) : Option Bindings → Deferred Fault (Fields Value)
  | none => pure []
  | some bindings => scope.resolve bindings

def valueOf (scope : Scope) : Value → Deferred Fault (Option Value)
  | .string source => scope.evaluateSoft source
  | value => scope.applyValue value

end MarkupTree.Concurrent.Scope
