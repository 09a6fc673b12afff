import MarkupTree.Site.Path
/-!
File trees: what stands at which place. A place is the list of names that lead to it from the root,
which is a directory itself.
-/

namespace MarkupTree

abbrev Place := List String

inductive Entry where
  | directory
  | file (text : String)
  deriving DecidableEq, Repr

abbrev FileTree := List (Place × Entry)

inductive IoFault where
  | noEntry
  | fileExists
  | notADirectory
  | isADirectory
  deriving DecidableEq, Repr

def IoFault.message : IoFault → String
  | .noEntry => "No such file or directory (os error 2)"
  | .fileExists => "File exists (os error 17)"
  | .notADirectory => "Not a directory (os error 20)"
  | .isADirectory => "Is a directory (os error 21)"

namespace FileTree

/-- What stands at a place; the root is a directory that is always there. -/
def held? (tree : FileTree) (place : Place) : Option Entry :=
  if place = [] then some .directory else tree.lookup place

def put : FileTree → Place → Entry → FileTree
  | [], place, entry => [(place, entry)]
  | first :: rest, place, entry =>
      if first.1 = place then (place, entry) :: rest else first :: put rest place entry

def addDirectories (tree : FileTree) (above : Place) : List String → FileTree
  | [] => tree
  | name :: rest =>
      let place := above ++ [name]
      let grown := if (held? tree place).isSome then tree else put tree place .directory
      addDirectories grown place rest

def addFile (tree : FileTree) (place : Place) (text : String) : FileTree :=
  put (addDirectories tree [] place.dropLast) place (.file text)

def directoryAt (tree : FileTree) (place : Place) : Except IoFault Place :=
  match held? tree place with
  | some .directory => .ok place
  | some (.file _) => .error .notADirectory
  | none => .error .noEntry

/-- The place that segments lead to; everything before the last name must be a directory. -/
def follow (tree : FileTree) (here : Place) : List String → Except IoFault Place
  | [] => .ok here
  | segment :: rest => do
      let directory ← directoryAt tree here
      if Path.isVoid segment then follow tree directory rest
      else if segment = ".." then follow tree directory.dropLast rest
      else follow tree (directory ++ [segment]) rest

def placeOf (tree : FileTree) (path : Path) : Except IoFault Place := follow tree [] path.segments

def at? (tree : FileTree) (path : Path) : Option Entry :=
  match placeOf tree path with
  | .ok place => held? tree place
  | .error _ => none

def has (tree : FileTree) (path : Path) : Bool := (at? tree path).isSome

def isDirectory (tree : FileTree) (path : Path) : Bool := at? tree path = some .directory

def read? (tree : FileTree) (path : Path) : Option String :=
  match at? tree path with
  | some (.file text) => some text
  | _ => none

def newPlace (tree : FileTree) (segments : List String) (taken : IoFault) :
    Except IoFault Place := do
  let above ← follow tree [] segments.dropLast
  let directory ← directoryAt tree above
  match segments.getLast? with
  | some name => if name = "." ∨ name = ".." then .error taken else .ok (directory ++ [name])
  | none => .error taken

def withoutEndSlashes (segments : List String) : List String :=
  (segments.reverse.dropWhile (· = "")).reverse

def makeDirectory (tree : FileTree) (path : Path) : Except IoFault FileTree := do
  let place ← newPlace tree (withoutEndSlashes path.segments) .fileExists
  match held? tree place with
  | some _ => .error .fileExists
  | none => .ok (put tree place .directory)

/-- A directory that is there already is as good as a new one. -/
def ensureDirectory (tree : FileTree) (path : Path) : Except IoFault FileTree :=
  match makeDirectory tree path with
  | .ok grown => .ok grown
  | .error fault => if isDirectory tree path then .ok tree else .error fault

def ensureDirectories (tree : FileTree) : Nat → Path → Except IoFault FileTree
  | 0, path => ensureDirectory tree path
  | steps + 1, path =>
      if path.segments = [""] then .ok tree
      else
        match makeDirectory tree path with
        | .error .noEntry => do
            let grown ← ensureDirectories tree steps path.parent
            ensureDirectory grown path
        | _ => ensureDirectory tree path

def makeDirectories (tree : FileTree) (path : Path) : Except IoFault FileTree :=
  ensureDirectories tree path.segments.length path

def write (tree : FileTree) (path : Path) (text : String) : Except IoFault FileTree := do
  let segments := withoutEndSlashes path.segments
  let place ← newPlace tree segments .isADirectory
  if segments ≠ path.segments then .error .isADirectory
  else
    match held? tree place with
    | some .directory => .error .isADirectory
    | _ => .ok (put tree place (.file text))

def changes (earlier later : FileTree) : List (Place × String) :=
  later.filterMap fun (place, entry) =>
    match entry with
    | .file text => if held? earlier place = some (.file text) then none else some (place, text)
    | .directory => none

/-- Places in the order of a walk that sorts the names in each directory and goes into each. -/
def before : Place → Place → Bool
  | [], _ => true
  | _ :: _, [] => false
  | a :: as, b :: bs => if a = b then before as bs else a < b

def walk (tree : FileTree) (place : Place) : List (Place × Entry) :=
  let inside := tree.filterMap fun found =>
    if place.isPrefixOf found.1 then some (found.1.drop place.length, found.2) else none
  inside.mergeSort fun a b => before a.1 b.1

/-- The files with the extension `json` at a path and under it, each by its way from there. -/
def documents (tree : FileTree) (path : Path) : List (Place × String) :=
  match placeOf tree path with
  | .error _ => []
  | .ok place =>
      (walk tree place).filterMap fun (way, entry) =>
        match entry with
        | .file text =>
            if (path.join ⟨way⟩).extension? = some "json" then some (way, text) else none
        | .directory => none

end FileTree

end MarkupTree
