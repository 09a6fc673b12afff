/-! Tokens of binding expressions. -/

namespace MarkupTree

inductive Keyword where
  | bool (flag : Bool)
  | null
  | undefined
  deriving DecidableEq, Repr

inductive Symbol where
  | openParen
  | closeParen
  | openBracket
  | closeBracket
  | comma
  | dot
  | question
  | colon
  | strictEqual
  | strictUnequal
  | equal
  | unequal
  | atMost
  | atLeast
  | less
  | greater
  | and
  | or
  | not
  | plus
  | minus
  | times
  | divide
  | remainder
  deriving DecidableEq, Repr

/-- Texts keep their quotes and numbers their digits, as the source spells them. -/
inductive Token where
  | keyword (word : Keyword)
  | identifier (name : List Char)
  | string (raw : List Char)
  | number (digits : List Char)
  | symbol (mark : Symbol)
  deriving DecidableEq, Repr

def Keyword.spelling : Keyword → List Char
  | .bool true => ['t', 'r', 'u', 'e']
  | .bool false => ['f', 'a', 'l', 's', 'e']
  | .null => ['n', 'u', 'l', 'l']
  | .undefined => ['u', 'n', 'd', 'e', 'f', 'i', 'n', 'e', 'd']

def Keyword.all : List Keyword := [.bool true, .bool false, .null, .undefined]

def Symbol.spelling : Symbol → List Char
  | .openParen => ['(']
  | .closeParen => [')']
  | .openBracket => ['[']
  | .closeBracket => [']']
  | .comma => [',']
  | .dot => ['.']
  | .question => ['?']
  | .colon => [':']
  | .strictEqual => ['=', '=', '=']
  | .strictUnequal => ['!', '=', '=']
  | .equal => ['=', '=']
  | .unequal => ['!', '=']
  | .atMost => ['<', '=']
  | .atLeast => ['>', '=']
  | .less => ['<']
  | .greater => ['>']
  | .and => ['&', '&']
  | .or => ['|', '|']
  | .not => ['!']
  | .plus => ['+']
  | .minus => ['-']
  | .times => ['*']
  | .divide => ['/']
  | .remainder => ['%']

/-- Every symbol, the longer ones first. -/
def Symbol.longestFirst : List Symbol :=
  [.strictEqual, .strictUnequal, .equal, .unequal, .atMost, .atLeast, .and, .or, .openParen,
    .closeParen, .openBracket, .closeBracket, .comma, .dot, .question, .colon, .less, .greater,
    .not, .plus, .minus, .times, .divide, .remainder]

def Token.spelling : Token → List Char
  | .keyword word => word.spelling
  | .identifier name => name
  | .string raw => raw
  | .number digits => digits
  | .symbol mark => mark.spelling

def Symbol.text (mark : Symbol) : String := String.ofList mark.spelling

def Token.description : Token → String
  | .identifier name => "identifier '" ++ String.ofList name ++ "'"
  | .string raw => "string " ++ String.ofList raw
  | .number digits => "number " ++ String.ofList digits
  | token => String.ofList token.spelling

end MarkupTree
