import MarkupTree.Expr.SyntaxError
import MarkupTree.Text.Quoted
import MarkupTree.Value.Basic
/-!
What goes wrong: faults end a whole render, expression faults only leave a field without a value.
-/

namespace MarkupTree

inductive TargetFault where
  | missing
  | wrongKind (found : Kind)
  | malformed
  deriving DecidableEq, Repr

inductive TreeFault where
  | iterationShape (found : Kind)
  | iterationTemplate (cause : TargetFault)
  deriving DecidableEq, Repr

/-- What ends a whole render. -/
inductive Fault where
  | componentNotFound (name : String)
  | utilityNotFound (name : String)
  | iterationSource (source : String) (found : Kind)
  | recursionLimit (limit : Nat) (element : Option String)
  | invalidTree (cause : TreeFault)
  deriving DecidableEq, Repr

/-- Why an expression has no value. -/
inductive ExprFault where
  | unparsable (cause : SyntaxError)
  | cannotApply (operator : String) (operand : Kind)
  | divisionByZero (operator : String)
  | notCallable (name : String)
  | invalidTarget (cause : TargetFault)
  | utilityFailed (name message : String)
  | fatal (fault : Fault)
  deriving DecidableEq, Repr

def TargetFault.message : TargetFault → String
  | .missing => "render() expects a component or a list of components: got undefined"
  | .wrongKind found => "render() expects a component or a list of components: got " ++ found.name
  | .malformed =>
      "render() expects a component or a list of components: data did not match any variant of " ++
        "untagged enum Unit"

def TreeFault.message : TreeFault → String
  | .iterationShape found => "foreach expects [iterable, template], got " ++ found.name
  | .iterationTemplate cause => "foreach template: " ++ cause.message

def elementText : Option String → String
  | none => "None"
  | some name => "Some(" ++ Text.quotedName name ++ ")"

def Fault.message : Fault → String
  | .componentNotFound name => "Component '" ++ name ++ "' not found"
  | .utilityNotFound name => "Utility '" ++ name ++ "' not found"
  | .iterationSource source found =>
      "foreach - Tried to iterate a non-array: '" ++ source ++ "' evaluated to " ++ found.name
  | .recursionLimit limit element =>
      "Render depth limit of " ++ toString limit ++ " exceeded at element " ++ elementText element
  | .invalidTree cause => "Invalid component tree: " ++ cause.message

def ExprFault.message : ExprFault → String
  | .unparsable cause => cause.message
  | .cannotApply operator operand =>
      "Type error: Cannot apply '" ++ operator ++ "' to " ++ operand.name
  | .divisionByZero operator => "Type error: Division by zero in '" ++ operator ++ "'"
  | .notCallable name => "'" ++ name ++ "' is not callable"
  | .invalidTarget cause => cause.message
  | .utilityFailed name message => "Utility '" ++ name ++ "' failed: " ++ message
  | .fatal fault => fault.message

end MarkupTree
