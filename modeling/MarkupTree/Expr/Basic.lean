import MarkupTree.Value.Basic
/-! Binding expressions. -/

namespace MarkupTree

inductive UnaryOperator where
  | not
  | negate
  deriving DecidableEq, Repr

inductive BinaryOperator where
  | add
  | subtract
  | multiply
  | divide
  | remainder
  | strictEqual
  | strictUnequal
  | equal
  | unequal
  | less
  | atMost
  | greater
  | atLeast
  | and
  | or
  deriving DecidableEq, Repr

inductive Expr where
  | literal (value : Value)
  | undefined
  | identifier (name : String)
  | member (object : Expr) (property : String)
  | index (object key : Expr)
  | call (callee : Expr) (arguments : List Expr)
  | unary (operator : UnaryOperator) (operand : Expr)
  | binary (operator : BinaryOperator) (left right : Expr)
  | conditional (test consequent alternative : Expr)
  | array (items : List Expr)

namespace Expr

mutual

/-- The sub-expressions on the longest way from an expression to a leaf, itself included. -/
def height : Expr → Nat
  | .literal _ | .undefined | .identifier _ => 1
  | .member object _ => object.height + 1
  | .index object key => max object.height key.height + 1
  | .call callee arguments => max callee.height (heightAll arguments) + 1
  | .unary _ operand => operand.height + 1
  | .binary _ left right => max left.height right.height + 1
  | .conditional test consequent alternative =>
      max test.height (max consequent.height alternative.height) + 1
  | .array items => heightAll items + 1

def heightAll : List Expr → Nat
  | [] => 0
  | item :: rest => max item.height (heightAll rest)

end

end Expr

end MarkupTree
