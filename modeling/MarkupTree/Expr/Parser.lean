import MarkupTree.Expr.Basic
import MarkupTree.Expr.Cursor
import MarkupTree.Expr.Quoted
/-!
Parsing binding expressions: a conditional over six levels of left-associative operators, which
stand over prefix operators, postfix chains and primaries.
-/

namespace MarkupTree

def BinaryOperator.looseness : BinaryOperator → Nat
  | .multiply | .divide | .remainder => 1
  | .add | .subtract => 2
  | .less | .atMost | .greater | .atLeast => 3
  | .strictEqual | .strictUnequal | .equal | .unequal => 4
  | .and => 5
  | .or => 6

def BinaryOperator.ofSymbol? : Symbol → Option BinaryOperator
  | .plus => some .add
  | .minus => some .subtract
  | .times => some .multiply
  | .divide => some .divide
  | .remainder => some .remainder
  | .strictEqual => some .strictEqual
  | .strictUnequal => some .strictUnequal
  | .equal => some .equal
  | .unequal => some .unequal
  | .less => some .less
  | .atMost => some .atMost
  | .greater => some .greater
  | .atLeast => some .atLeast
  | .and => some .and
  | .or => some .or
  | _ => none

def UnaryOperator.ofSymbol? : Symbol → Option UnaryOperator
  | .not => some .not
  | .minus => some .negate
  | _ => none

namespace Parser

open Cursor (Behind From)

def loosest : Nat := 6

def binaryOf (level : Nat) : Token → Option BinaryOperator
  | .symbol mark =>
      match BinaryOperator.ofSymbol? mark with
      | some operator => if operator.looseness = level then some operator else none
      | none => none
  | _ => none

def unaryOf : Token → Option UnaryOperator
  | .symbol mark => UnaryOperator.ofSymbol? mark
  | _ => none

inductive Suffix where
  | member
  | index
  | call
  deriving DecidableEq, Repr

def suffixOf : Token → Option Suffix
  | .symbol .dot => some .member
  | .symbol .openBracket => some .index
  | .symbol .openParen => some .call
  | _ => none

def keywordExpr : Keyword → Expr
  | .bool flag => .literal (.bool flag)
  | .null => .literal .null
  | .undefined => .undefined

/-- A property may be named like a keyword. -/
def propertyOf : Token → Option String
  | .identifier name => some (String.ofList name)
  | .keyword word => some (String.ofList word.spelling)
  | _ => none

def property (cursor : Cursor) : Except SyntaxError (Behind cursor String) :=
  match cursor.takeIf propertyOf with
  | some taken => .ok taken
  | none => cursor.unexpected .propertyName

inductive Opening where
  | whole (expr : Expr)
  | parenthesis
  | bracket
  | badNumber (digits : String)

def openingOf : Token → Option Opening
  | .keyword word => some (.whole (keywordExpr word))
  | .identifier name => some (.whole (.identifier (String.ofList name)))
  | .string raw => some (.whole (.literal (.string (String.ofList (Quoted.decode raw)))))
  | .number digits =>
      match Decimal.read? digits with
      | some n => some (.whole (.literal (.number n)))
      | none => some (.badNumber (String.ofList digits))
  | .symbol .openParen => some .parenthesis
  | .symbol .openBracket => some .bracket
  | .symbol _ => none

mutual

def expression (cursor : Cursor) : Except SyntaxError (Behind cursor Expr) := do
  let ⟨inside, same⟩ ← cursor.enter
  let ⟨(expr, after), moved⟩ ← conditional inside
  return ⟨(expr, after.leave 1), same ▸ moved⟩
termination_by (cursor.rest.length, 12)
decreasing_by grind

def conditional (cursor : Cursor) : Except SyntaxError (Behind cursor Expr) := do
  let ⟨(test, tested), testing⟩ ← binary loosest cursor
  match tested.take .question with
  | none => return ⟨(test, tested), testing⟩
  | some ⟨(_, asked), asking⟩ =>
      let ⟨(consequent, chosen), choosing⟩ ← expression asked
      let ⟨(_, parted), parting⟩ ← chosen.expect .colon
      let ⟨(alternative, after), ending⟩ ← expression parted
      return ⟨(.conditional test consequent alternative, after), by grind⟩
termination_by (cursor.rest.length, 11)
decreasing_by all_goals grind [loosest]

def binary (level : Nat) (cursor : Cursor) : Except SyntaxError (Behind cursor Expr) :=
  match level with
  | 0 => unary cursor
  | tighter + 1 => do
      let ⟨(left, after), moved⟩ ← binary tighter cursor
      let ⟨(expr, ended), ending⟩ ← chain tighter left 0 after
      return ⟨(expr, ended), by grind⟩
termination_by (cursor.rest.length, level + 4)
decreasing_by all_goals grind

/-- The operators above level `tighter` that follow `left`: each opens a level of nesting. -/
def chain (tighter : Nat) (left : Expr) (opened : Nat) (cursor : Cursor) :
    Except SyntaxError (From cursor Expr) :=
  match cursor.takeIf (binaryOf (tighter + 1)) with
  | none => return ⟨(left, cursor.leave opened), Nat.le_refl _⟩
  | some ⟨(operator, taken), taking⟩ => do
      let ⟨inside, same⟩ ← taken.enter
      let ⟨(right, after), moved⟩ ← binary tighter inside
      let ⟨(expr, ended), ending⟩ ← chain tighter (.binary operator left right) (opened + 1) after
      return ⟨(expr, ended), by grind⟩
termination_by (cursor.rest.length, 0)
decreasing_by all_goals grind

/-- Prefix operators in front of an operand; each opens a level of nesting. -/
def unary (cursor : Cursor) : Except SyntaxError (Behind cursor Expr) :=
  match cursor.takeIf unaryOf with
  | none => operand cursor
  | some ⟨(operator, taken), taking⟩ => do
      let ⟨inside, same⟩ ← taken.enter
      let ⟨(inner, after), moved⟩ ← unary inside
      return ⟨(.unary operator inner, after.leave 1), by grind [Cursor.rest_leave]⟩
termination_by (cursor.rest.length, 3)
decreasing_by all_goals grind

def operand (cursor : Cursor) : Except SyntaxError (Behind cursor Expr) := do
  let ⟨(expr, after), moved⟩ ← primary cursor
  let ⟨(whole, ended), ending⟩ ← suffixes expr 0 after
  return ⟨(whole, ended), by grind⟩
termination_by (cursor.rest.length, 2)
decreasing_by all_goals grind

/-- The suffixes of `object`: each opens a level of nesting before it is read. -/
def suffixes (object : Expr) (opened : Nat) (cursor : Cursor) :
    Except SyntaxError (From cursor Expr) :=
  match cursor.takeIf suffixOf with
  | none => return ⟨(object, cursor.leave opened), Nat.le_refl _⟩
  | some ⟨(suffix, taken), taking⟩ => do
      let _ ← cursor.enter
      let inside := { taken with nesting := taken.nesting + 1 }
      match suffix with
      | .member =>
          let ⟨(name, after), moved⟩ ← property inside
          let ⟨(expr, ended), ending⟩ ← suffixes (.member object name) (opened + 1) after
          return ⟨(expr, ended), by grind⟩
      | .index =>
          let ⟨(key, closing), moved⟩ ← expression inside
          let ⟨(_, after), closed⟩ ← closing.expect .closeBracket
          let ⟨(expr, ended), ending⟩ ← suffixes (.index object key) (opened + 1) after
          return ⟨(expr, ended), by grind⟩
      | .call =>
          let ⟨(arguments, after), moved⟩ ← listed .closeParen inside
          let ⟨(expr, ended), ending⟩ ← suffixes (.call object arguments) (opened + 1) after
          return ⟨(expr, ended), by grind⟩
termination_by (cursor.rest.length, 1)
decreasing_by all_goals grind

def primary (cursor : Cursor) : Except SyntaxError (Behind cursor Expr) :=
  match cursor.takeIf openingOf with
  | none => cursor.unexpected .expression
  | some ⟨(opening, taken), taking⟩ =>
      match opening with
      | .whole expr => return ⟨(expr, taken), taking⟩
      | .badNumber digits => .error (.unexpectedToken cursor.position .number digits)
      | .parenthesis => do
          let ⟨(expr, closing), moved⟩ ← expression taken
          let ⟨(_, after), closed⟩ ← closing.expect .closeParen
          return ⟨(expr, after), by grind⟩
      | .bracket => do
          let ⟨(items, after), moved⟩ ← listed .closeBracket taken
          return ⟨(.array items, after), by grind⟩
termination_by (cursor.rest.length, 1)
decreasing_by all_goals grind

/-- Expressions between commas up to a closing mark; a comma may stand before it. -/
def listed (close : Symbol) (cursor : Cursor) : Except SyntaxError (Behind cursor (List Expr)) :=
  match cursor.take close with
  | some ⟨(_, after), moved⟩ => return ⟨([], after), moved⟩
  | none =>
      if cursor.rest.isEmpty then .error (.unexpectedEnd cursor.finish)
      else do
        let ⟨(item, parted), moved⟩ ← expression cursor
        match parted.take .comma with
        | some ⟨(_, next), parting⟩ =>
            let ⟨(items, after), ending⟩ ← listed close next
            return ⟨(item :: items, after), by grind⟩
        | none =>
            let ⟨(_, after), closed⟩ ← parted.expect close
            return ⟨([item], after), by grind⟩
termination_by (cursor.rest.length, 13)
decreasing_by all_goals grind

end

def whole (finish : Nat) (tokens : List Located) : Except SyntaxError Expr := do
  let ⟨(expr, after), _⟩ ← expression ⟨tokens, 0, finish⟩
  match after.rest with
  | [] => return expr
  | _ :: _ => after.unexpected .endOfExpression

end Parser

/-- The expression that a source spells. -/
def parse (source : String) : Except SyntaxError Expr := do
  let tokens ← tokenize source
  Parser.whole source.utf8ByteSize tokens

end MarkupTree
