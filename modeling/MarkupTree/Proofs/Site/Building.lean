import MarkupTree.Proofs.Site.Pages

/-!
Building pages one after the other. What a page comes to depends on the tree before the build alone:
what is written on the way is no source, and is written over by no later page.
-/

namespace MarkupTree.Site

open FileTree (Kept Persists Receives)

def pageMarkup (renderer : Renderer) (tree : FileTree) (pagesDir : Path) (page : Page) :
    Except CommandFault String := do
  let fragment ← loadPage tree (page.source pagesDir)
  renderPage renderer fragment

def complaint (page : Page) : Except CommandFault String → String
  | .ok _ => ""
  | .error fault => "  ✗ " ++ page.name ++ " - " ++ fault.message ++ "\n"

/-- In a run over pages, every directory is made and every file is written. -/
def Unhindered (renderer : Renderer) (pagesDir outDir : Path) : List Page → FileTree → Prop
  | [], _ => True
  | page :: rest, tree =>
      match buildPage renderer tree (page.source pagesDir) (page.output outDir) with
      | .ok grown => Unhindered renderer pagesDir outDir rest grown
      | .error fault =>
          (∀ cause, fault ≠ .io cause) ∧ Unhindered renderer pagesDir outDir rest tree

variable {renderer : Renderer} {tree grown : FileTree} {pagesDir outDir : Path} {page : Page}

theorem save_receives {markup : String} (saved : save tree (page.output outDir) markup = .ok grown) :
    ∃ place, grown.placeOf (page.output outDir) = .ok place ∧ Receives tree grown place markup := by
  unfold save at saved
  split at saved
  · cases saved
  · rename_i furnished made
    split at saved
    · cases saved
    · rename_i written wrote
      cases saved
      obtain ⟨place, inside, leads, free, rfl⟩ := FileTree.write_eq_ok wrote
      have receives := @FileTree.receives_put _ _ markup inside free
      exact ⟨place, receives.persists.placeOf leads,
        .after (FileTree.ensureDirectories_furnish made) receives⟩

theorem buildPage_eq : buildPage renderer tree (page.source pagesDir) (page.output outDir) =
    pageMarkup renderer tree pagesDir page >>= save tree (page.output outDir) := by
  rw [pageMarkup, buildPage, bind_assoc]

theorem buildPage_of_error {fault : CommandFault}
    (own : pageMarkup renderer tree pagesDir page = .error fault) :
    buildPage renderer tree (page.source pagesDir) (page.output outDir) = .error fault := by
  rw [buildPage_eq, own]
  rfl

theorem buildPage_of_ok {markup : String} (own : pageMarkup renderer tree pagesDir page = .ok markup) :
    buildPage renderer tree (page.source pagesDir) (page.output outDir) =
      save tree (page.output outDir) markup := by
  rw [buildPage_eq, own]
  exact pure_bind markup (save tree (page.output outDir))

theorem save_eq_error {path : Path} {markup : String} {fault : CommandFault}
    (failed : save tree path markup = .error fault) : ∃ cause, fault = .io cause := by
  unfold save at failed
  split at failed
  · cases failed
    exact ⟨_, rfl⟩
  · split at failed
    · cases failed
      exact ⟨_, rfl⟩
    · cases failed

theorem pageMarkup_of_text {text : String} {fragment : Fragment}
    (source : tree.read? (page.source pagesDir) = some text)
    (described : (Json.readFile? text).bind Fragment.ofJson? = some fragment) :
    pageMarkup renderer tree pagesDir page = renderPage renderer fragment := by
  rw [pageMarkup, loadPage, load, source]
  dsimp only
  rw [document, described]
  rfl

theorem pageMarkup_congr {text : String} (holds : page.Holds tree pagesDir text)
    (again : page.Holds grown pagesDir text) :
    pageMarkup renderer grown pagesDir page = pageMarkup renderer tree pagesDir page := by
  rw [pageMarkup, pageMarkup, holds.loadPage, again.loadPage]

structure Listed (tree : FileTree) (pagesDir : Path) (pages : List Page) : Prop where
  once : pages.Nodup
  documents : ∀ page ∈ pages, page.IsDocument
  sources : ∀ page ∈ pages, ∃ text, page.Holds tree pagesDir text

/-- The tree after a run over pages: the markup of each page that has any is in its output, and no
other file has changed. -/
structure Built (renderer : Renderer) (tree : FileTree) (pagesDir outDir : Path) (pages : List Page)
    (built : FileTree) : Prop where
  persists : Persists tree built
  written : ∀ page ∈ pages, ∀ markup, pageMarkup renderer tree pagesDir page = .ok markup →
    ∃ place, built.placeOf (page.output outDir) = .ok place ∧
      built.held? place = some (.file markup)
  kept : ∀ place, (∀ page ∈ pages, ∀ markup, pageMarkup renderer tree pagesDir page = .ok markup →
    built.placeOf (page.output outDir) ≠ .ok place) → Kept tree built place

theorem Listed.tail {rest : List Page} (listed : Listed tree pagesDir (page :: rest)) :
    Listed tree pagesDir rest where
  once := (List.nodup_cons.mp listed.once).2
  documents other member := listed.documents other (List.mem_cons_of_mem page member)
  sources other member := listed.sources other (List.mem_cons_of_mem page member)

theorem Listed.receives {pages : List Page} (listed : Listed tree pagesDir pages) {place : Place}
    {markup : String} (receives : Receives tree grown place markup)
    (output : Path.extension? ⟨place⟩ = some "html") : Listed grown pagesDir pages where
  once := listed.once
  documents := listed.documents
  sources page member := by
    obtain ⟨text, holds⟩ := listed.sources page member
    exact ⟨text, holds.receives receives output⟩

theorem Listed.pageMarkup_receives {pages : List Page} (listed : Listed tree pagesDir pages)
    {place : Place} {markup : String} (receives : Receives tree grown place markup)
    (output : Path.extension? ⟨place⟩ = some "html") (member : page ∈ pages) :
    pageMarkup renderer grown pagesDir page = pageMarkup renderer tree pagesDir page := by
  obtain ⟨text, holds⟩ := listed.sources page member
  exact pageMarkup_congr holds (holds.receives receives output)

namespace Built

variable {rest : List Page} {built : FileTree}

theorem nil (renderer : Renderer) (tree : FileTree) (pagesDir outDir : Path) :
    Built renderer tree pagesDir outDir [] tree where
  persists _ held := held
  written _ member := absurd member List.not_mem_nil
  kept _ _ := .inl rfl

theorem cons_error {fault : CommandFault}
    (own : pageMarkup renderer tree pagesDir page = .error fault)
    (others : Built renderer tree pagesDir outDir rest built) :
    Built renderer tree pagesDir outDir (page :: rest) built where
  persists := others.persists
  written other member markup rendered := by
    rcases List.mem_cons.mp member with rfl | inside
    · rw [own] at rendered
      cases rendered
    · exact others.written other inside markup rendered
  kept place clear := others.kept place fun other member =>
    clear other (List.mem_cons_of_mem page member)

theorem cons_ok (listed : Listed tree pagesDir (page :: rest)) {markup : String} {place : Place}
    (own : pageMarkup renderer tree pagesDir page = .ok markup)
    (leads : grown.placeOf (page.output outDir) = .ok place)
    (receives : Receives tree grown place markup)
    (others : Built renderer grown pagesDir outDir rest built) :
    Built renderer tree pagesDir outDir (page :: rest) built := by
  have document := listed.documents page List.mem_cons_self
  have output := document.extension?_output leads
  have same (other : Page) (member : other ∈ rest) :
      pageMarkup renderer grown pagesDir other = pageMarkup renderer tree pagesDir other :=
    listed.tail.pageMarkup_receives receives output member
  have here : built.placeOf (page.output outDir) = .ok place := others.persists.placeOf leads
  -- no later page is written over this one, since it would have the same way
  have spared : ∀ other ∈ rest, built.placeOf (other.output outDir) ≠ .ok place := by
    intro other member meets
    have another := listed.tail.documents other member
    obtain rfl := document.eq_of_placeOf another here meets
    exact (List.nodup_cons.mp listed.once).1 member
  constructor
  · exact receives.persists.trans others.persists
  · intro other member text rendered
    rcases List.mem_cons.mp member with rfl | inside
    · rw [own] at rendered
      cases rendered
      exact ⟨place, here, (others.kept place fun other member _ _ => spared other member).held
        receives.held⟩
    · exact others.written other inside text ((same other inside).trans rendered)
  · intro another clear
    have different : another ≠ place := by
      rintro rfl
      exact clear page List.mem_cons_self markup own here
    refine (receives.others another different).trans (others.kept another ?_)
    intro other member text rendered
    exact clear other (List.mem_cons_of_mem page member) text
      ((same other member).symm.trans rendered)

theorem file_of_file {pages : List Page} {place : Place} {text : String}
    (run : Built renderer tree pagesDir outDir pages built)
    (held : tree.held? place = some (.file text)) :
    ∃ content, built.held? place = some (.file content) := by
  by_cases written : ∃ page ∈ pages, ∃ markup, pageMarkup renderer tree pagesDir page = .ok markup ∧
      built.placeOf (page.output outDir) = .ok place
  · obtain ⟨page, member, markup, rendered, leads⟩ := written
    obtain ⟨target, there, stands⟩ := run.written page member markup rendered
    rw [leads] at there
    cases there
    exact ⟨markup, stands⟩
  · refine ⟨text, (run.kept place ?_).held held⟩
    intro page member markup rendered leads
    exact written ⟨page, member, markup, rendered, leads⟩

end Built

theorem pageMarkup_ne_io (cause : IoFault) :
    pageMarkup renderer tree pagesDir page ≠ .error (.io cause) := by
  intro failed
  rw [pageMarkup] at failed
  cases loaded : loadPage tree (page.source pagesDir) with
  | error fault =>
      rw [loaded] at failed
      cases failed
      unfold loadPage load at loaded
      split at loaded
      · unfold document at loaded
        split at loaded <;> cases loaded
      · cases loaded
  | ok fragment =>
      rw [loaded] at failed
      have unrendered : renderPage renderer fragment = .error (.io cause) := failed
      unfold renderPage at unrendered
      split at unrendered <;> cases unrendered

namespace Unhindered

variable {rest : List Page}

theorem cons_ok {markup : String} (own : pageMarkup renderer tree pagesDir page = .ok markup)
    (saved : save tree (page.output outDir) markup = .ok grown)
    (others : Unhindered renderer pagesDir outDir rest grown) :
    Unhindered renderer pagesDir outDir (page :: rest) tree := by
  rw [Unhindered, buildPage_of_ok own, saved]
  exact others

theorem cons_error {fault : CommandFault}
    (own : pageMarkup renderer tree pagesDir page = .error fault)
    (others : Unhindered renderer pagesDir outDir rest tree) :
    Unhindered renderer pagesDir outDir (page :: rest) tree := by
  rw [Unhindered, buildPage_of_error own]
  refine ⟨?_, others⟩
  rintro cause rfl
  exact pageMarkup_ne_io cause own

end Unhindered

theorem buildPage_cases (hindrance : ∀ cause,
      buildPage renderer tree (page.source pagesDir) (page.output outDir) ≠ .error (.io cause)) :
    (∃ markup grown place, pageMarkup renderer tree pagesDir page = .ok markup ∧
      buildPage renderer tree (page.source pagesDir) (page.output outDir) = .ok grown ∧
      grown.placeOf (page.output outDir) = .ok place ∧ Receives tree grown place markup) ∨
    ∃ fault, pageMarkup renderer tree pagesDir page = .error fault ∧
      buildPage renderer tree (page.source pagesDir) (page.output outDir) = .error fault := by
  cases own : pageMarkup renderer tree pagesDir page with
  | error fault => exact .inr ⟨fault, rfl, buildPage_of_error own⟩
  | ok markup =>
      have saves : buildPage renderer tree (page.source pagesDir) (page.output outDir) =
          save tree (page.output outDir) markup := buildPage_of_ok own
      cases saved : save tree (page.output outDir) markup with
      | ok grown =>
          obtain ⟨place, leads, receives⟩ := save_receives saved
          exact .inl ⟨markup, grown, place, rfl, saves.trans saved, leads, receives⟩
      | error fault =>
          obtain ⟨cause, rfl⟩ := save_eq_error saved
          exact absurd (saves.trans saved) (hindrance cause)

def tally (renderer : Renderer) (tree : FileTree) (pagesDir : Path) (pages : List Page) : Summary where
  rendered := pages.countP fun page => (pageMarkup renderer tree pagesDir page).isOk
  failed := pages.countP fun page => !(pageMarkup renderer tree pagesDir page).isOk

def complaints (renderer : Renderer) (tree : FileTree) (pagesDir : Path) (pages : List Page) : String :=
  String.join (pages.map fun page => complaint page (pageMarkup renderer tree pagesDir page))

theorem tally_total (renderer : Renderer) (tree : FileTree) (pagesDir : Path) (pages : List Page) :
    (tally renderer tree pagesDir pages).rendered + (tally renderer tree pagesDir pages).failed =
      pages.length := by
  have parts := List.length_eq_countP_add_countP
    (fun page => (pageMarkup renderer tree pagesDir page).isOk) (l := pages)
  simpa [tally] using parts.symm

section

variable {rest : List Page} (same : ∀ page ∈ rest,
  pageMarkup renderer grown pagesDir page = pageMarkup renderer tree pagesDir page)

include same

theorem tally_congr : tally renderer grown pagesDir rest = tally renderer tree pagesDir rest := by
  have agree (test : Except CommandFault String → Bool) :
      rest.countP (fun page => test (pageMarkup renderer grown pagesDir page)) =
        rest.countP fun page => test (pageMarkup renderer tree pagesDir page) :=
    List.countP_congr fun page member => by rw [same page member]
  rw [tally, tally, agree, agree fun markup => !markup.isOk]

theorem complaints_congr :
    complaints renderer grown pagesDir rest = complaints renderer tree pagesDir rest := by
  rw [complaints, complaints, List.map_congr_left fun page member => by rw [same page member]]

end

theorem complaints_cons (page : Page) (rest : List Page) :
    complaints renderer tree pagesDir (page :: rest) =
      complaint page (pageMarkup renderer tree pagesDir page) ++
        complaints renderer tree pagesDir rest := by
  rw [complaints, complaints, List.map_cons, String.join_cons]

/-- A run over pages that nothing hinders builds them all, and counts and complains as each of them
comes out. -/
theorem buildPages_built {pages : List Page} (listed : Listed tree pagesDir pages)
    (unhindered : Unhindered renderer pagesDir outDir pages tree) (workspace : Workspace)
    (summary : Summary) (files : workspace.files = tree) :
    Built renderer tree pagesDir outDir pages
        (buildPages renderer pagesDir outDir pages workspace summary).1.files ∧
      (buildPages renderer pagesDir outDir pages workspace summary).1.err =
        workspace.err ++ complaints renderer tree pagesDir pages ∧
      (buildPages renderer pagesDir outDir pages workspace summary).2 =
        ⟨summary.rendered + (tally renderer tree pagesDir pages).rendered,
          summary.failed + (tally renderer tree pagesDir pages).failed⟩ := by
  -- the tree changes with each page that is written, but the sources of the others do not
  induction pages generalizing tree workspace summary with
  | nil =>
      subst files
      refine ⟨.nil renderer _ pagesDir outDir, ?_, rfl⟩
      simp [buildPages, complaints]
  | cons page rest ih =>
      subst files
      rw [Unhindered] at unhindered
      have hindrance : ∀ cause, buildPage renderer workspace.files (page.source pagesDir)
          (page.output outDir) ≠ .error (.io cause) := by
        intro cause failed
        rw [failed] at unhindered
        exact unhindered.1 cause rfl
      rw [buildPages]
      dsimp only
      rcases buildPage_cases hindrance with ⟨markup, grown, place, own, done, leads, receives⟩ |
        ⟨fault, own, failed⟩
      · rw [done] at unhindered ⊢
        have output := (listed.documents page List.mem_cons_self).extension?_output leads
        have same : ∀ other ∈ rest, pageMarkup renderer grown pagesDir other =
            pageMarkup renderer workspace.files pagesDir other :=
          fun other member => listed.tail.pageMarkup_receives receives output member
        obtain ⟨built, err, sum⟩ := ih (listed.tail.receives receives output) unhindered
          (({ workspace with files := grown } : Workspace).print
            ("  ✓ " ++ page.name ++ " → " ++ (page.output outDir).text))
          { summary with rendered := summary.rendered + 1 } rfl
        refine ⟨.cons_ok listed own leads receives built, ?_, ?_⟩
        · rw [err, complaints_congr same, complaints_cons, own]
          rfl
        · rw [sum, tally_congr same]
          simp [tally, own, Except.isOk, Except.toBool]
          omega
      · rw [failed] at unhindered ⊢
        obtain ⟨built, err, sum⟩ := ih listed.tail unhindered.2
          (workspace.complain ("  ✗ " ++ page.name ++ " - " ++ fault.message))
          { summary with failed := summary.failed + 1 } rfl
        refine ⟨.cons_error own built, ?_, ?_⟩
        · rw [err, complaints_cons, own]
          simp [Workspace.complain, complaint, String.append_assoc]
        · rw [sum]
          simp [tally, own, Except.isOk, Except.toBool]
          omega

end MarkupTree.Site
