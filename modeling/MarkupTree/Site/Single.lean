import MarkupTree.Site.Build
/-! Rendering a single page, to a file or to the output. -/

namespace MarkupTree.Site

structure RenderRequest where
  page : String
  components : Option String := none
  context : Option String := none
  out : Option String := none
  maxDepth : Option Nat := none
  deriving DecidableEq, Repr

def RenderRequest.options (request : RenderRequest) : Options :=
  match request.maxDepth with
  | some depth => { maxDepth := depth }
  | none => {}

def loadComponents (tree : FileTree) : Option Path → Except CommandFault Registry
  | some dir => loadRegistry tree dir
  | none => .ok []

def renderMarkup (files : FileTree) (here : Path) (request : RenderRequest) :
    Except CommandFault String := do
  let page ← loadPage files (here.join (.ofText request.page))
  let components ← loadComponents files (request.components.map fun dir => here.join (.ofText dir))
  let context ← loadContext files (request.context.map fun file => here.join (.ofText file))
  renderPage (renderer components context request.options) page

/-- Renders one page; its markup goes to a file or to the output. -/
def render (files : FileTree) (here : Path) (request : RenderRequest) :
    Workspace × Except CommandFault Unit :=
  let workspace : Workspace := { files := files }
  match renderMarkup files here request with
  | .error fault => (workspace, .error fault)
  | .ok markup =>
      match request.out with
      | none => (workspace.print markup, .ok ())
      | some out =>
          let path := here.join (.ofText out)
          match save files path markup with
          | .error fault => (workspace, .error fault)
          | .ok written =>
              ({ workspace with files := written }.complain
                ("✓ " ++ request.page ++ " → " ++ path.text), .ok ())

end MarkupTree.Site
