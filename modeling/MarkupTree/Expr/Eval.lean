import MarkupTree.Expr.Operators
import MarkupTree.Expr.Parser
import MarkupTree.Node.Target
import MarkupTree.Scope
/-!
Evaluation of binding expressions. A result may be undefined, which is `none`; operands are
evaluated from left to right, and the first fault is the fault of the whole.
-/

namespace MarkupTree.Expr

def isCallOnly (name : String) : Bool := name = "utilities" || name = "render"

/-- An identifier is one of the roots or the start of a path through the data. -/
def identifierValue (scope : Scope) (name : String) : Option Value :=
  if name = "context" then some scope.context
  else if name = "props" then some scope.props
  else if isCallOnly name then none
  else scope.lookup name

/-- Properties of a data identifier, as one dotted path. -/
def staticPath : Expr → Option String
  | .identifier name => if isCallOnly name then none else some name
  | .member object property => (staticPath object).map fun path => path ++ "." ++ property
  | _ => none

/-- Numbers and texts are keys; nothing else is. -/
def keyOf : Option Value → Option String
  | some (.number n) => some (Decimal.display n)
  | some (.string text) => some text
  | _ => none

/-- What an operand holds under a key; nothing if it is undefined. -/
def property (object : Option Value) (key : String) : Option Value :=
  object.bind fun value => value.get? key

inductive Callee where
  | render
  | utility (name : String) (utility : Utility)
  | nobody (name : String)

/-- Only `render`, the utilities and the properties of `utilities` can be called. -/
def calleeOf (scope : Scope) : Expr → Callee
  | .identifier name =>
      if name = "render" then .render
      else
        match Fields.find? scope.utilities name with
        | some utility => .utility name utility
        | none => .nobody name
  | .member (.identifier root) name =>
      if root = "utilities" then
        match Fields.find? scope.utilities name with
        | some utility => .utility name utility
        | none => .nobody name
      else .nobody name
  | .member _ name => .nobody name
  | _ => .nobody "expression"

def renderTarget (scope : Scope) (target : Option Value) : Except ExprFault (Option Value) :=
  match target with
  | none => .error (.invalidTarget .missing)
  | some value =>
      match Fragment.ofValue value with
      | .error cause => .error (.invalidTarget cause)
      | .ok fragment =>
          match scope.render fragment with
          | .error fault => .error (.fatal fault)
          | .ok markup => .ok (some (.string markup))

def invoke (scope : Scope) (name : String) (utility : Utility) (arguments : List Value) :
    Except ExprFault (Option Value) :=
  match utility scope.receiver arguments with
  | .ok value => .ok (some value)
  | .error message => .error (.utilityFailed name message)

mutual

def evaluate (scope : Scope) : Expr → Except ExprFault (Option Value)
  | .literal value => .ok (some value)
  | .undefined => .ok none
  | .identifier name => .ok (identifierValue scope name)
  | .member object name =>
      match staticPath (.member object name) with
      | some path => .ok (scope.lookup path)
      | none => do
          let object ← evaluate scope object
          return property object name
  | .index object key => do
      let object ← evaluate scope object
      let key ← evaluate scope key
      return (keyOf key).bind (property object)
  | .call callee arguments =>
      match calleeOf scope callee with
      | .render => do
          let target ← evaluateFirst scope arguments
          renderTarget scope target
      | .utility name utility => do
          let values ← evaluateAll scope arguments
          invoke scope name utility values
      | .nobody name => .error (.notCallable name)
  | .unary operator operand => do
      let operand ← evaluate scope operand
      return some (← Operand.unary operator operand)
  | .binary .and left right => do
      let left ← evaluate scope left
      if Operand.isTruthy left then evaluate scope right else return left
  | .binary .or left right => do
      let left ← evaluate scope left
      if Operand.isTruthy left then return left else evaluate scope right
  | .binary operator left right => do
      let left ← evaluate scope left
      let right ← evaluate scope right
      Operand.binary operator left right
  | .conditional test consequent alternative => do
      let test ← evaluate scope test
      if Operand.isTruthy test then evaluate scope consequent else evaluate scope alternative
  | .array items => do
      let values ← evaluateAll scope items
      return some (.array values)

/-- Undefined items are `null`. -/
def evaluateAll (scope : Scope) : List Expr → Except ExprFault (List Value)
  | [] => .ok []
  | item :: rest => do
      let value ← evaluate scope item
      let values ← evaluateAll scope rest
      return value.getD .null :: values

/-- The first argument; the others are not looked at. -/
def evaluateFirst (scope : Scope) : List Expr → Except ExprFault (Option Value)
  | [] => .ok none
  | item :: _ => evaluate scope item

end

end MarkupTree.Expr

namespace MarkupTree.Scope

def evaluate (scope : Scope) (source : String) : Except ExprFault (Option Value) :=
  match parse source with
  | .error cause => .error (.unparsable cause)
  | .ok expr => expr.evaluate scope

/-- Only a fault of a nested render is one here; any other failure leaves the value undefined. -/
def evaluateSoft (scope : Scope) (source : String) : Except Fault (Option Value) :=
  match scope.evaluate source with
  | .ok value => .ok value
  | .error (.fatal fault) => .error fault
  | .error _ => .ok none

end MarkupTree.Scope
