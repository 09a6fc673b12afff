import MarkupTree.Text.Pieces
/-! Paths as texts: the pieces between their slashes, as they were written. -/

namespace MarkupTree

/-- A path by the pieces between its slashes, empty ones included. -/
structure Path where
  segments : List String
  deriving DecidableEq, Repr

namespace Path

def ofText (text : String) : Path := ⟨(Text.pieces '/' text.toList).map String.ofList⟩

def text (path : Path) : String := String.intercalate "/" path.segments

def isAbsolute (path : Path) : Bool :=
  match path.segments with
  | "" :: _ :: _ => true
  | _ => false

/-- An absolute path stands for itself; any other is written behind the base. -/
def join (base path : Path) : Path :=
  if path.isAbsolute || base.segments = [""] then path
  else if base.segments.getLast? = some "" then ⟨base.segments.dropLast ++ path.segments⟩
  else ⟨base.segments ++ path.segments⟩

def isVoid (segment : String) : Bool := segment = "" || segment = "."

def significant (segments : List String) : List String :=
  (segments.reverse.dropWhile isVoid).reverse

def parent (path : Path) : Path :=
  match significant (significant path.segments).dropLast with
  | [] => if path.isAbsolute then ⟨["", ""]⟩ else ⟨[""]⟩
  | segments => ⟨segments⟩

def fileName? (path : Path) : Option String :=
  match (significant path.segments).getLast? with
  | some name => if name = ".." then none else some name
  | none => none

/-- A name around its last dot, unless the name starts with it. -/
def splitName (name : String) : String × Option String :=
  match Text.cut? '.' name.toList.reverse with
  | some (extension, stem) =>
      if stem = [] then (name, none)
      else (String.ofList stem.reverse, some (String.ofList extension.reverse))
  | none => (name, none)

def stem? (path : Path) : Option String := path.fileName?.map fun name => (splitName name).1

def extension? (path : Path) : Option String := path.fileName?.bind fun name => (splitName name).2

def withExtension (path : Path) (extension : String) : Path :=
  match path.stem? with
  | some stem => ⟨(significant path.segments).dropLast ++ [stem ++ "." ++ extension]⟩
  | none => path

end Path

end MarkupTree
