import Mathlib
import MarkupTree.Proofs.Site.Alone

/-!
Pages are built independently. Each is written to a place of its own, and comes out as it does where
it is the only page, as long as settings, components and context are the same without the others.
-/

namespace MarkupTree

namespace Site

open FileTree (Kept Persists)

variable {renderer : Renderer} {files : FileTree} {here : Path} {request : BuildRequest}
  {places : Layout}

/-- Where the parts of a site are by its settings, and the renderer that its components and its
context give. -/
def Loads (files : FileTree) (here : Path) (request : BuildRequest) (places : Layout)
    (renderer : Renderer) : Prop :=
  ∃ config, loadConfig files (here.join (.ofText request.path)) = .ok config ∧
    places = layout (here.join (.ofText request.path))
      { config with outDir := request.outDir.getD config.outDir } ∧
    loadRenderer files places config.options = .ok renderer

theorem loadConfig_of_text {root : Path} {text : String} {config : Config}
    (source : files.read? (root.join ⟨[Config.fileName]⟩) = some text)
    (settings : Config.ofText? text = some config) : loadConfig files root = .ok config := by
  have there : files.has (root.join ⟨[Config.fileName]⟩) = true := by
    unfold FileTree.read? at source
    unfold FileTree.has
    split at source
    · rename_i held
      rw [held]
      rfl
    · cases source
  unfold loadConfig
  simp only [there, source, settings, if_true]

/-- What stands at this place is read as no settings, no context and no component. -/
structure SetApart (files : FileTree) (root : Path) (places : Layout) (source : Place) : Prop where
  settings : files.placeOf (root.join ⟨[Config.fileName]⟩) ≠ .ok source
  context : ∀ path, places.context = some path → files.placeOf path ≠ .ok source
  components : ∀ around, files.placeOf places.components = .ok around → ¬around <+: source

/-- Pages that are set apart can be removed, and the site loads the same. -/
theorem Loads.onlyPage {page : Page} {place : Place} (formed : files.WellFormed)
    (leads : files.placeOf places.pages = .ok place) (loads : Loads files here request places renderer)
    (apart : ∀ another ∈ pages files places.pages, another ≠ page →
      SetApart files (here.join (.ofText request.path)) places (place ++ another.way)) :
    Loads (Site.onlyPage files places.pages page) here request places renderer := by
  obtain ⟨config, settings, same, loaded⟩ := loads
  refine ⟨config, ?_, same, ?_⟩
  · have spared := fun another member different => (apart another member different).settings
    rw [← settings, loadConfig, loadConfig, FileTree.has, FileTree.has,
      at?_onlyPage leads formed spared, read?_onlyPage leads formed spared]
  · have registry : loadRegistry (Site.onlyPage files places.pages page) places.components =
        loadRegistry files places.components := by
      rw [loadRegistry, loadRegistry, documents_onlyPage leads formed fun another member different =>
        (apart another member different).components]
    have context : loadContext (Site.onlyPage files places.pages page) places.context =
        loadContext files places.context := by
      cases given : places.context with
      | none => rfl
      | some path =>
          rw [loadContext, loadContext, load, load, read?_onlyPage leads formed
            fun another member different => (apart another member different).context path given]
    rw [← loaded, loadRenderer, loadRenderer, registry, context]

theorem build_of_loads (loads : Loads files here request places renderer)
    (directory : files.isDirectory places.pages = true) :
    build files here request =
      ((buildAll renderer places (({ files } : Workspace).print "🔨 Building pages...")).1,
        .ok (buildAll renderer places (({ files } : Workspace).print "🔨 Building pages...")).2) := by
  obtain ⟨config, settings, rfl, loaded⟩ := loads
  have there : files.has (layout (here.join (.ofText request.path))
      { config with outDir := request.outDir.getD config.outDir }).pages = true := by
    rw [FileTree.has, of_decide_eq_true directory]
    rfl
  have loaded : loadRenderer files (layout (here.join (.ofText request.path))
      { config with outDir := request.outDir.getD config.outDir })
      (Config.options { config with outDir := request.outDir.getD config.outDir }) =
        .ok renderer := loaded
  unfold build
  simp only [settings, there, loaded]
  rfl

theorem pages_listed (formed : files.WellFormed) (directory : files.isDirectory places.pages = true) :
    Listed files places.pages (pages files places.pages) := by
  obtain ⟨place, leads, held⟩ := FileTree.isDirectory_iff.mp directory
  constructor
  · exact nodup_pages formed leads
  · exact fun page member => isDocument_of_mem_pages formed leads held member
  · intro page member
    exact exists_holds_of_mem_pages formed leads held member

theorem buildAll_built (listed : Listed files places.pages (pages files places.pages))
    (unhindered : Unhindered renderer places.pages places.out (pages files places.pages) files)
    (workspace : Workspace) (same : workspace.files = files) :
    Built renderer files places.pages places.out (pages files places.pages)
        (buildAll renderer places workspace).1.files ∧
      (buildAll renderer places workspace).1.err =
        workspace.err ++ complaints renderer files places.pages (pages files places.pages) ∧
      (buildAll renderer places workspace).2 =
        tally renderer files places.pages (pages files places.pages) := by
  have listing : (workspace.files.documents places.pages).map (fun found => Page.mk found.1) =
      pages files places.pages := by rw [same, pages]
  unfold buildAll
  cases found : pages files places.pages with
  | nil =>
      rw [found] at listing
      simp only [listing]
      refine ⟨same ▸ .nil renderer _ places.pages places.out, ?_, rfl⟩
      simp [Workspace.print, complaints]
  | cons page rest =>
      rw [found] at listing listed unhindered
      simp only [listing]
      obtain ⟨built, err, sum⟩ := buildPages_built listed unhindered
        (workspace.print ("Found " ++ toString (page :: rest).length ++ " pages")) {} same
      refine ⟨built, err, sum.trans ?_⟩
      simp

theorem build_built (formed : files.WellFormed) (loads : Loads files here request places renderer)
    (directory : files.isDirectory places.pages = true)
    (unhindered : Unhindered renderer places.pages places.out (pages files places.pages) files) :
    ∃ built, build files here request =
        (built, .ok (tally renderer files places.pages (pages files places.pages))) ∧
      Built renderer files places.pages places.out (pages files places.pages) built.files ∧
      built.err = complaints renderer files places.pages (pages files places.pages) := by
  obtain ⟨built, err, sum⟩ := buildAll_built (pages_listed formed directory) unhindered
    (({ files } : Workspace).print "🔨 Building pages...") rfl
  refine ⟨_, (build_of_loads loads directory).trans (by rw [sum]), built, err.trans ?_⟩
  simp [Workspace.print]

/-- What a page comes to in a build: its markup is in its output, or it has none and no file is
written there. -/
structure Settled (renderer : Renderer) (files : FileTree) (places : Layout) (page : Page)
    (built : FileTree) : Prop where
  written : ∀ markup, pageMarkup renderer files places.pages page = .ok markup →
    built.read? (page.output places.out) = some markup
  spared : ∀ fault, pageMarkup renderer files places.pages page = .error fault →
    ∀ place, built.placeOf (page.output places.out) = .ok place → ∀ text,
      built.held? place = some (.file text) ↔ files.held? place = some (.file text)

theorem Built.settled {pages : List Page} {built : FileTree} {page : Page}
    (listed : Listed files places.pages pages)
    (run : Built renderer files places.pages places.out pages built) (member : page ∈ pages) :
    Settled renderer files places page built := by
  have document := listed.documents page member
  constructor
  · intro markup rendered
    obtain ⟨place, leads, held⟩ := run.written page member markup rendered
    rw [FileTree.read?, FileTree.at?, leads]
    dsimp only
    rw [held]
  · intro fault failed place leads text
    refine (run.kept place fun other inside markup rendered meets => ?_).file_iff text
    obtain rfl := document.eq_of_placeOf (listed.documents other inside) leads meets
    rw [failed] at rendered
    cases rendered

theorem Settled.of_onlyPage {page : Page} {place : Place} {built : FileTree}
    (settled : Settled renderer (onlyPage files places.pages page) places page built)
    (leads : files.placeOf places.pages = .ok place) (formed : files.WellFormed)
    (directory : files.held? place = some .directory) (present : page ∈ pages files places.pages) :
    Settled renderer files places page built := by
  have same := pageMarkup_onlyPage leads formed directory present renderer
  constructor
  · exact fun markup rendered => settled.written markup (same.trans rendered)
  · intro fault failed target output text
    rw [settled.spared fault (same.trans failed) target output text,
      held?_output_onlyPage leads formed directory present output]

/--
Pages are built independently. Their outputs lead to different places, and none to a document. After
a build in which every directory is made and every file is written, the output of each page that is
loaded and rendered holds its markup, and no file is written to that of any other; the summary counts
the ones and the others. Where a page is the only one, and settings, components and context load the
same, it comes to the same; they do if the other pages are set apart from them.
-/
theorem pages_built_independently (formed : files.WellFormed)
    (loads : Loads files here request places renderer)
    (directory : files.isDirectory places.pages = true)
    (unhindered : Unhindered renderer places.pages places.out (pages files places.pages) files) :
    ∃ built summary, build files here request = (built, .ok summary) ∧
      (∀ page ∈ pages files places.pages, ∀ other ∈ pages files places.pages, page ≠ other →
        page.output places.out ≠ other.output places.out ∧
        ∀ place, built.files.placeOf (page.output places.out) = .ok place →
          built.files.placeOf (other.output places.out) ≠ .ok place) ∧
      (∀ page ∈ pages files places.pages, ∀ place text, (place, .file text) ∈ files →
        Path.extension? ⟨place⟩ = some "json" →
        built.files.placeOf (page.output places.out) ≠ .ok place) ∧
      (∀ page ∈ pages files places.pages, Settled renderer files places page built.files) ∧
      summary.rendered + summary.failed = (pages files places.pages).length ∧
      summary.failed = (pages files places.pages).countP
        (fun page => !(pageMarkup renderer files places.pages page).isOk) ∧
      built.err = complaints renderer files places.pages (pages files places.pages) ∧
      (∀ page ∈ pages files places.pages, (∀ other ∈ pages files places.pages, other ≠ page →
          ∀ source, files.placeOf (other.source places.pages) = .ok source →
            SetApart files (here.join (.ofText request.path)) places source) →
        Loads (onlyPage files places.pages page) here request places renderer) ∧
      ∀ page ∈ pages files places.pages,
        Loads (onlyPage files places.pages page) here request places renderer →
        ∃ alone, build (onlyPage files places.pages page) here request =
            (alone, .ok (tally renderer files places.pages [page])) ∧
          Settled renderer files places page alone.files ∧
          alone.err = complaint page (pageMarkup renderer files places.pages page) := by
  obtain ⟨place, leads, held⟩ := FileTree.isDirectory_iff.mp directory
  have listed := pages_listed formed directory
  obtain ⟨built, done, run, err⟩ := build_built formed loads directory unhindered
  refine ⟨built, _, done, ?_, ?_, fun page => run.settled listed, tally_total .., rfl, err, ?_, ?_⟩
  · intro page member other inside different
    have document := listed.documents page member
    have another := listed.documents other inside
    constructor
    · exact fun same => different (document.eq_of_output_eq another places.out same)
    · intro target first second
      exact different (document.eq_of_placeOf another first second)
  · intro page member target text stands document output
    rw [(listed.documents page member).extension?_output output] at document
    exact absurd document (by decide)
  · intro page member apart
    refine loads.onlyPage formed leads fun other inside different => ?_
    exact apart other inside different _ (placeOf_source_of_mem_pages formed leads held inside)
  · intro page member loadsAlone
    -- what the whole build made shows that nothing hinders the page alone
    have unhinderedAlone := unhindered_onlyPage leads formed held member run member
    have persists : Persists files (onlyPage files places.pages page) :=
      persists_onlyPage leads formed
    have only : pages (onlyPage files places.pages page) places.pages = [page] :=
      pages_onlyPage leads formed member
    have same : ∀ other ∈ [page], pageMarkup renderer (onlyPage files places.pages page) places.pages
        other = pageMarkup renderer files places.pages other :=
      List.forall_mem_singleton.mpr (pageMarkup_onlyPage leads formed held member renderer)
    have formedAlone : (onlyPage files places.pages page).WellFormed :=
      wellFormed_onlyPage leads formed
    have directoryAlone : (onlyPage files places.pages page).isDirectory places.pages = true :=
      FileTree.isDirectory_iff.mpr ⟨place, persists.placeOf leads, persists place held⟩
    obtain ⟨alone, doneAlone, runAlone, errAlone⟩ :=
      build_built formedAlone loadsAlone directoryAlone (by rwa [only])
    have settled := runAlone.settled (pages_listed formedAlone directoryAlone)
      (only ▸ List.mem_cons_self)
    rw [only, tally_congr same] at doneAlone
    rw [only, complaints_congr same] at errAlone
    refine ⟨alone, doneAlone, ?_, by simpa [complaints] using errAlone⟩
    exact settled.of_onlyPage leads formed held member

def entryDocument (name text : String) : String := "\x7b\"" ++ name ++ "\":\"" ++ text ++ "\"\x7d"

theorem read_buttons :
    (Json.readFile? (entryDocument "element" "button")).bind Fragment.ofJson? =
        some (.one (.ofElement "button")) ∧
      (Json.readFile? (entryDocument "element" "Button")).bind Fragment.ofJson? =
        some (.one (.ofElement "Button")) := ⟨by cbv, by cbv⟩

abbrev rendererOf (components : Registry) : Renderer := Site.renderer components (.object []) {}

theorem render_buttons_without :
    renderPage (rendererOf []) (.one (.ofElement "button")) = .ok "<button></button>" ∧
      renderPage (rendererOf []) (.one (.ofElement "Button")) =
        .error (.render (.componentNotFound "Button")) := ⟨by cbv, by cbv⟩

def nestedSite : FileTree :=
  [(["breeze.config.json"], .file (entryDocument "outDir" "pages/out")), (["pages"], .directory),
    (["pages", "blog"], .directory),
    (["pages", "blog", "index.json"], .file (entryDocument "element" "Button")),
    (["pages", "blog", "v1.2.json"], .file (entryDocument "element" "button")),
    (["pages", "index.json"], .file (entryDocument "element" "button"))]

def nestedLayout : Layout where
  components := ⟨[".", "components"]⟩
  pages := ⟨[".", "pages"]⟩
  out := ⟨[".", "pages", "out"]⟩
  context := none

theorem pages_nestedSite : pages nestedSite nestedLayout.pages =
    [⟨["blog", "index.json"]⟩, ⟨["blog", "v1.2.json"]⟩, ⟨["index.json"]⟩] := by
  have leads : nestedSite.placeOf nestedLayout.pages = .ok ["pages"] := by decide
  rw [pages, FileTree.documents_of_ordered leads (by decide)]
  rfl

theorem loads_nestedSite : Loads nestedSite ⟨[""]⟩ {} nestedLayout (rendererOf []) := by
  have leads : nestedSite.placeOf nestedLayout.components = .ok ["components"] := by decide
  have registry : loadRegistry nestedSite nestedLayout.components = .ok [] := by
    rw [loadRegistry, FileTree.documents_of_ordered leads (by decide)]
    rfl
  have settings : Config.ofText? (entryDocument "outDir" "pages/out") =
      some { outDir := "pages/out" } := by cbv
  refine ⟨{ outDir := "pages/out" }, loadConfig_of_text (by rfl) settings, by rfl, ?_⟩
  rw [loadRenderer, registry]
  rfl

theorem pageMarkup_button {tree : FileTree} {page : Page}
    (source : tree.read? (page.source nestedLayout.pages) = some (entryDocument "element" "button")) :
    pageMarkup (rendererOf []) tree nestedLayout.pages page = .ok "<button></button>" :=
  (pageMarkup_of_text source read_buttons.1).trans render_buttons_without.1

theorem pageMarkup_missing : pageMarkup (rendererOf []) nestedSite nestedLayout.pages
    ⟨["blog", "index.json"]⟩ = .error (.render (.componentNotFound "Button")) :=
  (pageMarkup_of_text (by rfl) read_buttons.2).trans render_buttons_without.2

theorem unhindered_nestedSite : Unhindered (rendererOf []) nestedLayout.pages nestedLayout.out
    (pages nestedSite nestedLayout.pages) nestedSite := by
  have first : save nestedSite (Page.output nestedLayout.out ⟨["blog", "v1.2.json"]⟩)
      "<button></button>" = .ok (nestedSite ++ [(["pages", "out"], .directory),
        (["pages", "out", "blog"], .directory),
        (["pages", "out", "blog", "v1.2.html"], .file "<button></button>")]) := by rfl
  have second : ∃ grown, save (nestedSite ++ [(["pages", "out"], .directory),
      (["pages", "out", "blog"], .directory),
      (["pages", "out", "blog", "v1.2.html"], .file "<button></button>")])
        (Page.output nestedLayout.out ⟨["index.json"]⟩) "<button></button>" = .ok grown :=
    ⟨_, by rfl⟩
  obtain ⟨grown, saved⟩ := second
  rw [pages_nestedSite]
  refine .cons_error pageMarkup_missing (.cons_ok (pageMarkup_button (by rfl)) first ?_)
  exact .cons_ok (pageMarkup_button (by rfl)) saved trivial

theorem setApart_nestedSite (way : Place) :
    SetApart nestedSite ⟨["."]⟩ nestedLayout (["pages"] ++ way) := by
  have settings : nestedSite.placeOf ((Path.mk ["."]).join ⟨[Config.fileName]⟩) =
      .ok [Config.fileName] := by decide
  have components : nestedSite.placeOf nestedLayout.components = .ok ["components"] := by decide
  constructor
  · rw [settings]
    simp [Config.fileName]
  · rintro path ⟨⟩
  · rw [components]
    rintro around ⟨⟩
    simp

theorem nestedSite_built :
    nestedSite.WellFormed ∧ Loads nestedSite ⟨[""]⟩ {} nestedLayout (rendererOf []) ∧
    nestedSite.isDirectory nestedLayout.pages = true ∧
    Unhindered (rendererOf []) nestedLayout.pages nestedLayout.out
      (pages nestedSite nestedLayout.pages) nestedSite ∧
    ∃ built alone, build nestedSite ⟨[""]⟩ {} = (built, .ok ⟨2, 1⟩) ∧
      built.files.read? (Page.output nestedLayout.out ⟨["blog", "v1.2.json"]⟩) =
        some "<button></button>" ∧
      build (onlyPage nestedSite nestedLayout.pages ⟨["blog", "v1.2.json"]⟩) ⟨[""]⟩ {} =
        (alone, .ok ⟨1, 0⟩) ∧
      alone.files.read? (Page.output nestedLayout.out ⟨["blog", "v1.2.json"]⟩) =
        some "<button></button>" := by
  have formed : nestedSite.WellFormed := ⟨by decide, by decide, by decide⟩
  have directory : nestedSite.isDirectory nestedLayout.pages = true := by decide
  have leads : nestedSite.placeOf nestedLayout.pages = .ok ["pages"] := by decide
  have post : pageMarkup (rendererOf []) nestedSite nestedLayout.pages ⟨["blog", "v1.2.json"]⟩ =
      .ok "<button></button>" := pageMarkup_button (by rfl)
  have index : pageMarkup (rendererOf []) nestedSite nestedLayout.pages ⟨["index.json"]⟩ =
      .ok "<button></button>" := pageMarkup_button (by rfl)
  have present : ⟨["blog", "v1.2.json"]⟩ ∈ pages nestedSite nestedLayout.pages := by
    rw [pages_nestedSite]
    decide
  obtain ⟨built, ⟨rendered, failed⟩, done, _, _, settled, total, counted, _, loading, alone⟩ :=
    pages_built_independently formed loads_nestedSite directory unhindered_nestedSite
  have others : ∀ other ∈ pages nestedSite nestedLayout.pages, ∀ source,
      nestedSite.placeOf (other.source nestedLayout.pages) = .ok source →
        SetApart nestedSite ⟨["."]⟩ nestedLayout source := by
    intro other inside source found
    rw [placeOf_source_of_mem_pages formed leads (by decide) inside] at found
    cases found
    exact setApart_nestedSite other.way
  obtain ⟨single, doneAlone, settledAlone, _⟩ :=
    alone _ present (loading _ present fun other inside _ => others other inside)
  refine ⟨formed, loads_nestedSite, directory, unhindered_nestedSite, built, single, ?_,
    (settled _ present).written _ post, ?_, settledAlone.written _ post⟩
  · have one : failed = 1 := by
      simpa [pages_nestedSite, pageMarkup_missing, post, index, Except.isOk, Except.toBool]
        using counted
    have all : rendered + failed = 3 := by simpa [pages_nestedSite] using total
    obtain rfl : rendered = 2 := by omega
    rw [done, one]
  · simpa [tally, post, Except.isOk, Except.toBool] using doneAlone

/-- A site with its components among its pages. -/
def partsSite : FileTree :=
  [(["breeze.config.json"], .file (entryDocument "componentsDir" "pages/parts")),
    (["pages"], .directory), (["pages", "index.json"], .file (entryDocument "element" "Button")),
    (["pages", "parts"], .directory),
    (["pages", "parts", "Button.json"], .file (entryDocument "element" "button"))]

def partsLayout : Layout where
  components := ⟨[".", "pages", "parts"]⟩
  pages := ⟨[".", "pages"]⟩
  out := ⟨[".", "dist"]⟩
  context := none

abbrev button : Registry := [("Button", .one (.ofElement "button"))]

theorem render_buttons_with :
    renderPage (rendererOf button) (.one (.ofElement "button")) = .ok "<button></button>" ∧
      renderPage (rendererOf button) (.one (.ofElement "Button")) = .ok "<button></button>" :=
  ⟨by cbv, by cbv⟩

theorem pages_partsSite : pages partsSite partsLayout.pages =
    [⟨["index.json"]⟩, ⟨["parts", "Button.json"]⟩] := by
  have leads : partsSite.placeOf partsLayout.pages = .ok ["pages"] := by decide
  rw [pages, FileTree.documents_of_ordered leads (by decide)]
  rfl

theorem loads_parts {tree : FileTree} {components : Registry}
    (source : tree.read? ⟨[".", "breeze.config.json"]⟩ =
      some (entryDocument "componentsDir" "pages/parts"))
    (registry : loadRegistry tree partsLayout.components = .ok components) :
    Loads tree ⟨[""]⟩ {} partsLayout (rendererOf components) := by
  have settings : Config.ofText? (entryDocument "componentsDir" "pages/parts") =
      some { componentsDir := "pages/parts" } := by cbv
  refine ⟨{ componentsDir := "pages/parts" }, loadConfig_of_text source settings, by rfl, ?_⟩
  rw [loadRenderer, registry]
  rfl

theorem loads_partsSite : Loads partsSite ⟨[""]⟩ {} partsLayout (rendererOf button) := by
  refine loads_parts (by rfl) ?_
  have leads : partsSite.placeOf partsLayout.components = .ok ["pages", "parts"] := by decide
  have listed : partsSite.documents partsLayout.components =
      [(["Button.json"], entryDocument "element" "button")] := by
    rw [FileTree.documents_of_ordered leads (by decide)]
    rfl
  have defined : define [] [(partsLayout.components.join ⟨["Button.json"]⟩,
      entryDocument "element" "button")] =
        .ok [⟨"Button", partsLayout.components.join ⟨["Button.json"]⟩, .one (.ofElement "button")⟩] := by
    have stem : (partsLayout.components.join ⟨["Button.json"]⟩).stem? = some "Button" := by decide
    simp [define, document, read_buttons.1, stem, bind, Except.bind]
  rw [loadRegistry, listed, List.map_singleton, defined]
  rfl

theorem onlyPage_partsSite : onlyPage partsSite partsLayout.pages ⟨["index.json"]⟩ =
    partsSite.eraseIdx 4 := by
  have leads : partsSite.placeOf partsLayout.pages = .ok ["pages"] := by decide
  rw [onlyPage, leads, pages_partsSite]
  rfl

theorem loads_partsSite_alone :
    Loads (onlyPage partsSite partsLayout.pages ⟨["index.json"]⟩) ⟨[""]⟩ {} partsLayout
      (rendererOf []) := by
  rw [onlyPage_partsSite]
  refine loads_parts (by rfl) ?_
  have leads : FileTree.placeOf (partsSite.eraseIdx 4) partsLayout.components =
      .ok ["pages", "parts"] := by decide
  rw [loadRegistry, FileTree.documents_of_ordered leads (by decide)]
  rfl

theorem pageMarkup_index {components : Registry} {tree : FileTree}
    (source : tree.read? ⟨[".", "pages", "index.json"]⟩ = some (entryDocument "element" "Button")) :
    pageMarkup (rendererOf components) tree partsLayout.pages ⟨["index.json"]⟩ =
      renderPage (rendererOf components) (.one (.ofElement "Button")) :=
  pageMarkup_of_text source read_buttons.2

theorem pageMarkup_part {tree : FileTree}
    (source : tree.read? ⟨[".", "pages", "parts", "Button.json"]⟩ =
      some (entryDocument "element" "button")) :
    pageMarkup (rendererOf button) tree partsLayout.pages ⟨["parts", "Button.json"]⟩ =
      .ok "<button></button>" :=
  (pageMarkup_of_text source read_buttons.1).trans render_buttons_with.1

theorem unhindered_partsSite : Unhindered (rendererOf button) partsLayout.pages partsLayout.out
    (pages partsSite partsLayout.pages) partsSite := by
  have first : save partsSite (Page.output partsLayout.out ⟨["index.json"]⟩) "<button></button>" =
      .ok (partsSite ++ [(["dist"], .directory),
        (["dist", "index.html"], .file "<button></button>")]) := by rfl
  have second : ∃ grown, save (partsSite ++ [(["dist"], .directory),
      (["dist", "index.html"], .file "<button></button>")])
        (Page.output partsLayout.out ⟨["parts", "Button.json"]⟩) "<button></button>" = .ok grown :=
    ⟨_, by rfl⟩
  obtain ⟨grown, saved⟩ := second
  rw [pages_partsSite]
  refine .cons_ok ?_ first (.cons_ok (pageMarkup_part (by rfl)) saved trivial)
  exact (pageMarkup_index (by rfl)).trans render_buttons_with.2

/-- A page does not come to the same without the others if one of them is a component of it. -/
theorem partsSite_page_alone :
    partsSite.WellFormed ∧ Loads partsSite ⟨[""]⟩ {} partsLayout (rendererOf button) ∧
    partsSite.isDirectory partsLayout.pages = true ∧
    Unhindered (rendererOf button) partsLayout.pages partsLayout.out
      (pages partsSite partsLayout.pages) partsSite ∧
    (∃ built, build partsSite ⟨[""]⟩ {} = (built, .ok ⟨2, 0⟩) ∧
      built.files.read? (Page.output partsLayout.out ⟨["index.json"]⟩) = some "<button></button>") ∧
    Loads (onlyPage partsSite partsLayout.pages ⟨["index.json"]⟩) ⟨[""]⟩ {} partsLayout
      (rendererOf []) ∧
    ∃ alone, build (onlyPage partsSite partsLayout.pages ⟨["index.json"]⟩) ⟨[""]⟩ {} =
        (alone, .ok ⟨0, 1⟩) ∧
      alone.err = "  ✗ index.json - Component 'Button' not found\n" := by
  have formed : partsSite.WellFormed := ⟨by decide, by decide, by decide⟩
  have directory : partsSite.isDirectory partsLayout.pages = true := by decide
  have leads : partsSite.placeOf partsLayout.pages = .ok ["pages"] := by decide
  have index : pageMarkup (rendererOf button) partsSite partsLayout.pages ⟨["index.json"]⟩ =
      .ok "<button></button>" := (pageMarkup_index (by rfl)).trans render_buttons_with.2
  have part : pageMarkup (rendererOf button) partsSite partsLayout.pages
      ⟨["parts", "Button.json"]⟩ = .ok "<button></button>" := pageMarkup_part (by rfl)
  have present : ⟨["index.json"]⟩ ∈ pages partsSite partsLayout.pages := by
    rw [pages_partsSite]
    decide
  have only : pages (onlyPage partsSite partsLayout.pages ⟨["index.json"]⟩) partsLayout.pages =
      [⟨["index.json"]⟩] := pages_onlyPage leads formed present
  have formedAlone : (onlyPage partsSite partsLayout.pages ⟨["index.json"]⟩).WellFormed :=
    wellFormed_onlyPage leads formed
  have directoryAlone : (onlyPage partsSite partsLayout.pages ⟨["index.json"]⟩).isDirectory
      partsLayout.pages = true := by
    rw [onlyPage_partsSite]
    decide
  have missing : pageMarkup (rendererOf []) (onlyPage partsSite partsLayout.pages ⟨["index.json"]⟩)
      partsLayout.pages ⟨["index.json"]⟩ = .error (.render (.componentNotFound "Button")) := by
    rw [onlyPage_partsSite]
    exact (pageMarkup_index (by rfl)).trans render_buttons_without.2
  obtain ⟨built, done, run, _⟩ := build_built formed loads_partsSite directory unhindered_partsSite
  obtain ⟨alone, doneAlone, _, err⟩ := build_built formedAlone loads_partsSite_alone directoryAlone
    (by
      rw [only]
      exact .cons_error missing trivial)
  have settled := run.settled (pages_listed formed directory) present
  refine ⟨formed, loads_partsSite, directory, unhindered_partsSite,
    ⟨built, ?_, settled.written _ index⟩, loads_partsSite_alone, alone, ?_, ?_⟩
  · rw [done, pages_partsSite]
    simp [tally, index, part, Except.isOk, Except.toBool]
  · rw [doneAlone, only]
    simp [tally, missing, Except.isOk, Except.toBool]
  · rw [err, only, complaints, List.map_singleton, missing]
    decide

end Site

end MarkupTree
