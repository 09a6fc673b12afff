/-! Quoted texts: a backslash takes away the meaning of a quote or backslash behind it. -/

namespace MarkupTree.Quoted

def resolve : List Char → List Char
  | [] => []
  | ['\\'] => ['\\']
  | '\\' :: mark :: rest =>
      (match mark with
        | 'n' => '\n'
        | 't' => '\t'
        | 'r' => '\r'
        | other => other) :: resolve rest
  | c :: rest => c :: resolve rest

/-- The text between the first and the last character, its escapes resolved. -/
def decode : List Char → List Char
  | [] => []
  | _ :: rest => resolve rest.dropLast

/-- A text in quotes, with a backslash before each quote and backslash. -/
def encode (quote : Char) (text : List Char) : List Char :=
  quote :: (text.flatMap (fun c => if c = quote ∨ c = '\\' then ['\\', c] else [c]) ++ [quote])

end MarkupTree.Quoted
