import MarkupTree.Expr.Parser

/-!
The grammar of binding expressions. A conditional stands over six levels of binary operators, from
alternatives at level six to products at level one; these stand over prefix operators at level zero,
postfix chains and primaries. Left operands may hold operators of their own level and right ones may
not, so operators associate to the left.
-/

namespace MarkupTree

open MarkupTree.Parser (loosest propertyOf keywordExpr)

inductive Phrase where
  | expression
  | operation (level : Nat)
  | operand
  | primary
  | items (close : Symbol)

abbrev Phrase.Tree : Phrase → Type
  | .items _ => List Expr
  | _ => Expr

/-- The derivations of a list of tokens as a phrase that stands for a tree. -/
inductive Derivation : (phrase : Phrase) → List Token → phrase.Tree → Type
  | operation {ts : List Token} {test : Expr} (inner : Derivation (.operation loosest) ts test) :
      Derivation .expression ts test
  | conditional {ts us vs : List Token} {test consequent alternative : Expr}
      (asked : Derivation (.operation loosest) ts test) (chosen : Derivation .expression us consequent)
      (refused : Derivation .expression vs alternative) :
      Derivation .expression (ts ++ .symbol .question :: (us ++ .symbol .colon :: vs))
        (.conditional test consequent alternative)
  | tighter {level : Nat} {ts : List Token} {expr : Expr}
      (inner : Derivation (.operation level) ts expr) : Derivation (.operation (level + 1)) ts expr
  | binary {level : Nat} {ts us : List Token} {mark : Symbol} {operator : BinaryOperator}
      {left right : Expr} (spelled : BinaryOperator.ofSymbol? mark = some operator)
      (binds : operator.looseness = level + 1) (first : Derivation (.operation (level + 1)) ts left)
      (second : Derivation (.operation level) us right) :
      Derivation (.operation (level + 1)) (ts ++ .symbol mark :: us) (.binary operator left right)
  | unprefixed {ts : List Token} {expr : Expr} (inner : Derivation .operand ts expr) :
      Derivation (.operation 0) ts expr
  | unary {ts : List Token} {mark : Symbol} {operator : UnaryOperator} {expr : Expr}
      (spelled : UnaryOperator.ofSymbol? mark = some operator)
      (inner : Derivation (.operation 0) ts expr) :
      Derivation (.operation 0) (.symbol mark :: ts) (.unary operator expr)
  | primary {ts : List Token} {expr : Expr} (inner : Derivation .primary ts expr) :
      Derivation .operand ts expr
  | member {ts : List Token} {token : Token} {expr : Expr} {name : String}
      (object : Derivation .operand ts expr) (named : propertyOf token = some name) :
      Derivation .operand (ts ++ [.symbol .dot, token]) (.member expr name)
  | index {ts us : List Token} {expr key : Expr} (object : Derivation .operand ts expr)
      (inner : Derivation .expression us key) :
      Derivation .operand (ts ++ .symbol .openBracket :: (us ++ [.symbol .closeBracket]))
        (.index expr key)
  | call {ts us : List Token} {expr : Expr} {arguments : List Expr}
      (callee : Derivation .operand ts expr) (inner : Derivation (.items .closeParen) us arguments) :
      Derivation .operand (ts ++ .symbol .openParen :: us) (.call expr arguments)
  | keyword (word : Keyword) : Derivation .primary [.keyword word] (keywordExpr word)
  | identifier (name : List Char) :
      Derivation .primary [.identifier name] (.identifier (String.ofList name))
  | string (raw : List Char) :
      Derivation .primary [.string raw] (.literal (.string (String.ofList (Quoted.decode raw))))
  | number {digits : List Char} {n : Float} (read : Decimal.read? digits = some n) :
      Derivation .primary [.number digits] (.literal (.number n))
  | parenthesis {ts : List Token} {expr : Expr} (inner : Derivation .expression ts expr) :
      Derivation .primary (.symbol .openParen :: (ts ++ [.symbol .closeParen])) expr
  | array {ts : List Token} {items : List Expr} (inner : Derivation (.items .closeBracket) ts items) :
      Derivation .primary (.symbol .openBracket :: ts) (.array items)
  | none {close : Symbol} : Derivation (.items close) [.symbol close] []
  | last {close : Symbol} {ts : List Token} {item : Expr} (only : Derivation .expression ts item) :
      Derivation (.items close) (ts ++ [.symbol close]) [item]
  /-- Nothing but the closing mark need follow a comma. -/
  | comma {close : Symbol} {ts us : List Token} {item : Expr} {others : List Expr}
      (first : Derivation .expression ts item) (rest : Derivation (.items close) us others) :
      Derivation (.items close) (ts ++ .symbol .comma :: us) (item :: others)

/-- A list of tokens derives an expression. -/
def Derives (tokens : List Token) (expr : Expr) : Prop :=
  Nonempty (Derivation .expression tokens expr)

namespace Derivation

@[simp] def spine : {phrase : Phrase} → {ts : List Token} → {tree : phrase.Tree} →
    Derivation phrase ts tree → Nat
  | _, _, _, .binary _ _ first _ => first.spine + 1
  | _, _, _, .member object _ => object.spine + 1
  | _, _, _, .index object _ => object.spine + 1
  | _, _, _, .call callee _ => callee.spine + 1
  | _, _, _, _ => 0

/--
The levels of nesting that reading a phrase opens at a time. Each operator of a chain, and each
suffix, opens one that stays open to the end of its chain.
-/
@[simp] def nesting : {phrase : Phrase} → {ts : List Token} → {tree : phrase.Tree} →
    Derivation phrase ts tree → Nat
  | _, _, _, .operation inner => inner.nesting + 1
  | _, _, _, .conditional asked chosen refused =>
      max asked.nesting (max chosen.nesting refused.nesting) + 1
  | _, _, _, .tighter inner => inner.nesting
  | _, _, _, .binary _ _ first second => max first.nesting (first.spine + 1 + second.nesting)
  | _, _, _, .unprefixed inner => inner.nesting
  | _, _, _, .unary _ inner => inner.nesting + 1
  | _, _, _, .primary inner => inner.nesting
  | _, _, _, .member object _ => max object.nesting (object.spine + 1)
  | _, _, _, .index object inner => max object.nesting (object.spine + 1 + inner.nesting)
  | _, _, _, .call callee inner => max callee.nesting (callee.spine + 1 + inner.nesting)
  | _, _, _, .keyword _ | _, _, _, .identifier _ | _, _, _, .string _ | _, _, _, .number _ => 0
  | _, _, _, .parenthesis inner => inner.nesting
  | _, _, _, .array inner => inner.nesting
  | _, _, _, .none => 0
  | _, _, _, .last only => only.nesting
  | _, _, _, .comma first rest => max first.nesting rest.nesting

theorem length_pos {phrase : Phrase} {ts : List Token} {tree : phrase.Tree}
    (derivation : Derivation phrase ts tree) : 1 ≤ ts.length := by
  induction derivation with
  | operation _ ih | tighter _ ih | unprefixed _ ih | primary _ ih => exact ih
  | keyword | identifier | string | number | none => exact Nat.le_refl 1
  | _ =>
      simp only [List.length_append, List.length_cons]
      omega

end Derivation

end MarkupTree
