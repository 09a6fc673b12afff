import MarkupTree.Site.Loading
/-! Building a site: every page of it is rendered into its output directory. -/

namespace MarkupTree.Site

structure Workspace where
  files : FileTree
  out : String := ""
  err : String := ""

def Workspace.print (workspace : Workspace) (line : String) : Workspace :=
  { workspace with out := workspace.out ++ line ++ "\n" }

def Workspace.complain (workspace : Workspace) (line : String) : Workspace :=
  { workspace with err := workspace.err ++ line ++ "\n" }

structure Summary where
  rendered : Nat := 0
  failed : Nat := 0
  deriving DecidableEq, Repr

structure Page where
  way : Place
  deriving DecidableEq, Repr

def Page.name (page : Page) : String := String.intercalate "/" page.way

def Page.source (pagesDir : Path) (page : Page) : Path := pagesDir.join ⟨page.way⟩

/-- Pages keep their way, so that no two of them are written to one place. -/
def Page.output (outDir : Path) (page : Page) : Path :=
  (outDir.join (Path.ofText page.name)).withExtension "html"

def save (tree : FileTree) (path : Path) (markup : String) : Except CommandFault FileTree :=
  match tree.makeDirectories path.parent with
  | .error fault => .error (.io fault)
  | .ok grown =>
      match grown.write path markup with
      | .error fault => .error (.io fault)
      | .ok written => .ok written

def renderPage (renderer : Renderer) (page : Fragment) : Except CommandFault String :=
  match renderer.render page .null with
  | .ok markup => .ok markup
  | .error fault => .error (.render fault)

def buildPage (renderer : Renderer) (tree : FileTree) (source output : Path) :
    Except CommandFault FileTree := do
  let page ← loadPage tree source
  let markup ← renderPage renderer page
  save tree output markup

/-- A page that fails is told of, and the others are built all the same. -/
def buildPages (renderer : Renderer) (pagesDir outDir : Path) :
    List Page → Workspace → Summary → Workspace × Summary
  | [], workspace, summary => (workspace, summary)
  | page :: rest, workspace, summary =>
      let output := page.output outDir
      match buildPage renderer workspace.files (page.source pagesDir) output with
      | .ok files =>
          let told := { workspace with files := files }.print
            ("  ✓ " ++ page.name ++ " → " ++ output.text)
          buildPages renderer pagesDir outDir rest told
            { summary with rendered := summary.rendered + 1 }
      | .error fault =>
          let told := workspace.complain ("  ✗ " ++ page.name ++ " - " ++ fault.message)
          buildPages renderer pagesDir outDir rest told
            { summary with failed := summary.failed + 1 }

def conclusion (summary : Summary) : String :=
  if summary.failed = 0 then "✅ Built " ++ toString summary.rendered ++ " pages successfully"
  else
    "⚠️ Built " ++ toString summary.rendered ++ " pages, " ++ toString summary.failed ++ " errors"

structure BuildRequest where
  path : String := "."
  outDir : Option String := none
  deriving DecidableEq, Repr

structure Layout where
  components : Path
  pages : Path
  out : Path
  context : Option Path

def layout (root : Path) (config : Config) : Layout where
  components := root.join (.ofText config.componentsDir)
  pages := root.join (.ofText config.pagesDir)
  out := root.join (.ofText config.outDir)
  context := config.contextFile.map fun file => root.join (.ofText file)

def loadRenderer (tree : FileTree) (places : Layout) (options : Options) :
    Except CommandFault Renderer := do
  let components ← loadRegistry tree places.components
  let context ← loadContext tree places.context
  return renderer components context options

def buildAll (renderer : Renderer) (places : Layout) (workspace : Workspace) :
    Workspace × Summary :=
  match (workspace.files.documents places.pages).map fun (way, _) => Page.mk way with
  | [] => (workspace.print "⚠️  No pages found", {})
  | pages =>
      let announced := workspace.print ("Found " ++ toString pages.length ++ " pages")
      let (built, summary) := buildPages renderer places.pages places.out pages announced {}
      ((built.print "").print (conclusion summary), summary)

/-- Builds a site, if its settings, components and context can be loaded. -/
def build (files : FileTree) (here : Path) (request : BuildRequest) :
    Workspace × Except CommandFault Summary :=
  let root := here.join (.ofText request.path)
  match loadConfig files root with
  | .error fault => ({ files := files }, .error fault)
  | .ok loaded =>
      let config := { loaded with outDir := request.outDir.getD loaded.outDir }
      let places := layout root config
      if !files.has places.pages then ({ files := files }, .error (.missingPages places.pages))
      else
        let workspace := { files : Workspace }.print "🔨 Building pages..."
        match loadRenderer files places config.options with
        | .error fault => (workspace, .error fault)
        | .ok renderer =>
            let (built, summary) := buildAll renderer places workspace
            (built, .ok summary)

end MarkupTree.Site
