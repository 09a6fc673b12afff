import MarkupTree.Concurrent.Scope
import MarkupTree.Expr.Eval
/-!
Evaluation of binding expressions where utilities may suspend. Operands, arguments and items are
waited for together; what a logical operator or a condition decides about is not asked for before.
-/

namespace MarkupTree.Concurrent

inductive Callee where
  | render
  | utility (name : String) (utility : Utility)
  | nobody (name : String)

namespace Scope

def utilityOr (scope : Scope) (name : String) : Callee :=
  match Fields.find? scope.utilities name with
  | some utility => .utility name utility
  | none => .nobody name

def calleeOf (scope : Scope) : Expr → Callee
  | .identifier name => if name = "render" then .render else scope.utilityOr name
  | .member (.identifier root) name =>
      if root = "utilities" then scope.utilityOr name else .nobody name
  | .member _ name => .nobody name
  | _ => .nobody "expression"

def renderResult : Except Fault String → Except ExprFault (Option Value)
  | .ok markup => .ok (some (.string markup))
  | .error fault => .error (.fatal fault)

def renderTarget (scope : Scope) : Option Value → Deferred ExprFault (Option Value)
  | none => .done (.error (.invalidTarget .missing))
  | some value =>
      match Fragment.ofValue value with
      | .error cause => .done (.error (.invalidTarget cause))
      | .ok fragment => (scope.renderWithProps fragment .null).convert renderResult

def utilityResult (name : String) : Except String Value → Except ExprFault (Option Value)
  | .ok value => .ok (some value)
  | .error message => .error (.utilityFailed name message)

mutual

def evaluateExpr (scope : Scope) : Expr → Deferred ExprFault (Option Value)
  | .literal value => pure (some value)
  | .undefined => pure none
  | .identifier name => pure (Expr.identifierValue scope.settled name)
  | .member object name =>
      match Expr.staticPath (.member object name) with
      | some path => pure (scope.lookup path)
      | none => do
          let object ← evaluateExpr scope object
          return Expr.property object name
  | .index object key => do
      let (object, key) ← Deferred.both false (evaluateExpr scope object) fun _ =>
        evaluateExpr scope key
      return (Expr.keyOf key).bind (Expr.property object)
  | .call callee arguments =>
      match scope.calleeOf callee with
      | .render => do
          let target ← evaluateFirst scope arguments
          scope.renderTarget target
      | .utility name utility => do
          let values ← evaluateAll scope (Deferred.isQueued arguments) arguments
          (utility scope.receiver values).convert (utilityResult name)
      | .nobody name => .done (.error (.notCallable name))
  | .unary operator operand => do
      let operand ← evaluateExpr scope operand
      some <$> .done (Operand.unary operator operand)
  | .binary .and left right => do
      let left ← evaluateExpr scope left
      if Operand.isTruthy left then evaluateExpr scope right else return left
  | .binary .or left right => do
      let left ← evaluateExpr scope left
      if Operand.isTruthy left then return left else evaluateExpr scope right
  | .binary operator left right => do
      let (left, right) ← Deferred.both false (evaluateExpr scope left) fun _ =>
        evaluateExpr scope right
      .done (Operand.binary operator left right)
  | .conditional test consequent alternative => do
      let test ← evaluateExpr scope test
      if Operand.isTruthy test then evaluateExpr scope consequent
      else evaluateExpr scope alternative
  | .array items => do
      let values ← evaluateAll scope (Deferred.isQueued items) items
      return some (.array values)

def evaluateAll (scope : Scope) (held : Bool) : List Expr → Deferred ExprFault (List Value)
  | [] => pure []
  | item :: rest => do
      let (value, values) ← Deferred.both held (evaluateExpr scope item) fun _ =>
        evaluateAll scope held rest
      return value.getD .null :: values

def evaluateFirst (scope : Scope) : List Expr → Deferred ExprFault (Option Value)
  | [] => pure none
  | item :: _ => evaluateExpr scope item

end

def evaluate (scope : Scope) (source : String) : Deferred ExprFault (Option Value) :=
  match parse source with
  | .error cause => .done (.error (.unparsable cause))
  | .ok expr => scope.evaluateExpr expr

def softResult : Except ExprFault (Option Value) → Except Fault (Option Value)
  | .ok value => .ok value
  | .error (.fatal fault) => .error fault
  | .error _ => .ok none

def evaluateSoft (scope : Scope) (source : String) : Deferred Fault (Option Value) :=
  (scope.evaluate source).convert softResult

end Scope

end MarkupTree.Concurrent
