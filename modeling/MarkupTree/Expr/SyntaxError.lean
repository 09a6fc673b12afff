import MarkupTree.Expr.Token
/-! Why a source is no expression, with byte positions in the source. -/

namespace MarkupTree

/-- The deepest nesting of an expression. -/
def nestingLimit : Nat := 64

inductive Expectation where
  | endOfExpression
  | expression
  | propertyName
  | number
  | symbol (mark : Symbol)
  deriving DecidableEq, Repr

inductive SyntaxError where
  | unreadable (position : Nat)
  | unexpectedToken (position : Nat) (expected : Expectation) (found : String)
  | unexpectedEnd (position : Nat)
  | tooDeep (position : Nat)
  deriving DecidableEq, Repr

def Expectation.text : Expectation → String
  | .endOfExpression => "end of expression"
  | .expression => "expression"
  | .propertyName => "property name"
  | .number => "number"
  | .symbol mark => mark.text

def SyntaxError.message : SyntaxError → String
  | .unreadable position => "Lexer error at " ++ toString position
  | .unexpectedToken position expected found =>
      "Unexpected token at " ++ toString position ++ ": expected " ++ expected.text ++ ", found " ++
        found
  | .unexpectedEnd position => "Unexpected end of expression at " ++ toString position
  | .tooDeep position =>
      "Expression nested deeper than " ++ toString nestingLimit ++ " levels at " ++
        toString position

end MarkupTree
