import MarkupTree.Value.Basic
/-! The markup of one node. -/

namespace MarkupTree.Html

def escapeLetter (c : Char) : List Char :=
  if c = '"' then ['&', 'q', 'u', 'o', 't', ';'] else [c]

def escape (text : String) : String := String.ofList (text.toList.flatMap escapeLetter)

/-- `true` and the empty text give a bare name; `false` and `null` leave the attribute out. -/
def entry (name : String) : Value → Option String
  | .bool false | .null => none
  | .bool true => some name
  | value =>
      if value.asString? = some "" then some name
      else some (name ++ "=\"" ++ escape value.display ++ "\"")

def attributes (fields : Fields Value) : String :=
  String.intercalate " " (fields.filterMap fun field => entry field.1 field.2)

def opening (element : String) (fields : Fields Value) : String :=
  let shown := attributes fields
  if shown = "" then "<" ++ element else "<" ++ element ++ " " ++ shown

/-- A node with a closer has no content; one without an element is its content. -/
def compose (element : Option String) (fields : Fields Value) (content : String)
    (closer : Option String) : String :=
  match element, closer with
  | none, _ => content
  | some element, some closer => opening element fields ++ " " ++ closer ++ ">"
  | some element, none => opening element fields ++ ">" ++ content ++ "</" ++ element ++ ">"

end MarkupTree.Html
