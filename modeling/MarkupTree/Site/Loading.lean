import MarkupTree.Json.Reader
import MarkupTree.Renderer
import MarkupTree.Site.Config
import MarkupTree.Site.FileTree
import MarkupTree.Utility.Builtin
/-! Loading a site: settings, components, context and pages, each from its files. -/

namespace MarkupTree

inductive CommandFault where
  | unreadable (path : Path)
  | invalidJson (path : Path)
  | invalidConfig (path : Path)
  | duplicateComponent (name : String) (first second : Path)
  | missingPages (path : Path)
  | render (fault : Fault)
  | io (fault : IoFault)
  | failedPages (count : Nat)
  deriving DecidableEq, Repr

def CommandFault.message : CommandFault → String
  | .unreadable path => "Failed to read " ++ path.text
  | .invalidJson path => "Invalid JSON in " ++ path.text
  | .invalidConfig path => "Invalid config in " ++ path.text
  | .duplicateComponent name first second =>
      "Duplicate component '" ++ name ++ "' in " ++ first.text ++ " and " ++ second.text
  | .missingPages path => "Pages directory does not exist: " ++ Text.quotedPath path.text
  | .render fault => fault.message
  | .io fault => fault.message
  | .failedPages count => toString count ++ " page(s) failed to render"

namespace Site

def document {α : Type} (path : Path) (ofJson? : Json → Option α) (text : String) :
    Except CommandFault α :=
  match (Json.readFile? text).bind ofJson? with
  | some found => .ok found
  | none => .error (.invalidJson path)

def load {α : Type} (tree : FileTree) (path : Path) (ofJson? : Json → Option α) :
    Except CommandFault α :=
  match tree.read? path with
  | some text => document path ofJson? text
  | none => .error (.unreadable path)

/-- The settings of a site; the defaults where it has no file for them. -/
def loadConfig (tree : FileTree) (root : Path) : Except CommandFault Config :=
  let path := root.join ⟨[Config.fileName]⟩
  if tree.has path then
    match tree.read? path with
    | some text =>
        match Config.ofText? text with
        | some config => .ok config
        | none => .error (.invalidConfig path)
    | none => .error (.unreadable path)
  else .ok {}

def loadPage (tree : FileTree) (path : Path) : Except CommandFault Fragment :=
  load tree path Fragment.ofJson?

/-- Without a file the context is empty. -/
def loadContext (tree : FileTree) : Option Path → Except CommandFault Value
  | some path => load tree path fun json => some (Value.ofJson json)
  | none => .ok (.object [])

structure Definition where
  name : String
  path : Path
  fragment : Fragment

/-- Reads definitions in order; a name that is taken is a fault, whatever its second file holds. -/
def define (found : List Definition) : List (Path × String) → Except CommandFault (List Definition)
  | [] => .ok found
  | (path, text) :: rest =>
      let name := path.stem?.getD ""
      match found.find? fun definition => definition.name = name with
      | some first => .error (.duplicateComponent name first.path path)
      | none => do
          let fragment ← document path Fragment.ofJson? text
          define (found ++ [⟨name, path, fragment⟩]) rest

/-- The components under a directory, named by their files; none where there is no directory. -/
def loadRegistry (tree : FileTree) (dir : Path) : Except CommandFault Registry := do
  let files := (tree.documents dir).map fun (way, text) => (dir.join ⟨way⟩, text)
  let definitions ← define [] files
  return definitions.map fun definition => (definition.name, definition.fragment)

def renderer (components : Registry) (context : Value) (options : Options) : Renderer where
  components := components
  extensions := Extension.canonical
  context := context
  utilities := Builtin.all
  options := options

end Site

end MarkupTree
