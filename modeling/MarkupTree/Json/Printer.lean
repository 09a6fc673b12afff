import MarkupTree.Decimal.Layout
import MarkupTree.Json.Basic
/-! Compact JSON text: no spaces, entries in order, escapes only where the format needs them. -/

namespace MarkupTree.Json

def unicodeEscape (c : Char) : List Char :=
  let digits := Nat.toDigits 16 c.toNat
  '\\' :: 'u' :: (List.replicate (4 - digits.length) '0' ++ digits)

def escapeLetter (c : Char) : List Char :=
  match c with
  | '"' => ['\\', '"']
  | '\\' => ['\\', '\\']
  | '\x08' => ['\\', 'b']
  | '\x0C' => ['\\', 'f']
  | '\n' => ['\\', 'n']
  | '\r' => ['\\', 'r']
  | '\t' => ['\\', 't']
  | c => if c < ' ' then unicodeEscape c else [c]

def quoted (text : String) : String :=
  String.ofList ('"' :: (text.toList.flatMap escapeLetter ++ ['"']))

mutual

def print : Json → String
  | .null => "null"
  | .bool flag => if flag then "true" else "false"
  | .integer n => toString n
  | .number n => Decimal.jsonText n
  | .string text => quoted text
  | .array items => "[" ++ String.intercalate "," (printItems items) ++ "]"
  | .object entries => "\x7b" ++ String.intercalate "," (printEntries entries) ++ "\x7d"

def printItems : List Json → List String
  | [] => []
  | item :: rest => print item :: printItems rest

def printEntries : List (String × Json) → List String
  | [] => []
  | (name, json) :: rest => (quoted name ++ ":" ++ print json) :: printEntries rest

end

end MarkupTree.Json
