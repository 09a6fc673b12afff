import MarkupTree.Call.Basic
import MarkupTree.Scope
/-!
Applying structured calls: parameters that are calls come first, an unknown utility is a fault, and
a utility that fails leaves the value undefined.
-/

namespace MarkupTree.Scope

mutual

def applyCall (scope : Scope) (call : Call) : Except Fault (Option Value) :=
  match Fields.find? scope.utilities call.utility with
  | none => .error (.utilityNotFound call.utility)
  | some utility => do
      let arguments ← applyParameters scope call.parameters
      match utility scope.receiver arguments with
      | .ok value => return some value
      | .error _ => return none
termination_by (sizeOf call.parameters, 1)

def applyValue (scope : Scope) (value : Value) : Except Fault (Option Value) :=
  match _found : Call.ofValue? value with
  | some call => applyCall scope call
  | none => .ok (some value)
termination_by (sizeOf value, 0)
decreasing_by
  have := Call.sizeOf_parameters (by assumption)
  grind

/-- A parameter without a value is `null`. -/
def applyParameters (scope : Scope) : List Value → Except Fault (List Value)
  | [] => .ok []
  | parameter :: rest => do
      let value ← applyValue scope parameter
      let values ← applyParameters scope rest
      return value.getD .null :: values
termination_by parameters => (sizeOf parameters, 0)
decreasing_by
  · simp only [List.cons.sizeOf_spec, Prod.lex_def]
    omega
  · simp only [List.cons.sizeOf_spec, Prod.lex_def]
    omega

end

end MarkupTree.Scope
