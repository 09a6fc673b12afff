import MarkupTree.Call.Basic
import MarkupTree.Concurrent.Deferred
import MarkupTree.Scope
/-!
Scopes whose utilities may suspend, and the calls of these. Parameters are waited for together.
-/

namespace MarkupTree.Concurrent

/-- A host function of receiver and arguments that may take some rounds to answer. -/
abbrev Utility := Receiver → List Value → Deferred String Value

structure Scope where
  context : Value
  utilities : Fields Utility
  props : Value
  depth : Nat
  /-- Renders nodes with given props one level below. -/
  deeper : List Node → Value → Deferred Fault String

namespace Scope

def withProps (scope : Scope) (props : Value) : Scope := { scope with props := props }

def receiver (scope : Scope) : Receiver := ⟨scope.context, scope.props⟩

/-- The scope as it is seen where nothing is waited for: everything answers at once. -/
def settled (scope : Scope) : MarkupTree.Scope where
  context := scope.context
  utilities := Fields.mapValues (fun utility receiver arguments =>
    (utility receiver arguments).outcome) scope.utilities
  props := scope.props
  depth := scope.depth
  deeper nodes props := (scope.deeper nodes props).outcome

def lookup (scope : Scope) (path : String) : Option Value := scope.settled.lookup path

def renderWithProps (scope : Scope) (fragment : Fragment) (props : Value) : Deferred Fault String :=
  scope.deeper fragment.nodes props

def callResult : Except String Value → Except Fault (Option Value)
  | .ok value => .ok (some value)
  | .error _ => .ok none

mutual

/-- An unknown utility is a fault, before any parameter is looked at. -/
def applyCall (scope : Scope) (call : Call) : Deferred Fault (Option Value) :=
  match Fields.find? scope.utilities call.utility with
  | none => .done (.error (.utilityNotFound call.utility))
  | some utility => do
      let arguments ← applyAll scope (Deferred.isQueued call.parameters) call.parameters
      (utility scope.receiver arguments).convert callResult
termination_by (sizeOf call.parameters, 1)

def applyValue (scope : Scope) (value : Value) : Deferred Fault (Option Value) :=
  match _found : Call.ofValue? value with
  | some call => applyCall scope call
  | none => .done (.ok (some value))
termination_by (sizeOf value, 0)
decreasing_by
  have := Call.sizeOf_parameters (by assumption)
  grind

def applyAll (scope : Scope) (held : Bool) : List Value → Deferred Fault (List Value)
  | [] => pure []
  | parameter :: rest => do
      let (value, values) ← Deferred.both held (applyValue scope parameter) fun _ =>
        applyAll scope held rest
      return value.getD .null :: values
termination_by parameters => (sizeOf parameters, 0)
decreasing_by
  · simp only [List.cons.sizeOf_spec, Prod.lex_def]
    omega
  · simp only [List.cons.sizeOf_spec, Prod.lex_def]
    omega

end

end Scope

end MarkupTree.Concurrent
