import MarkupTree.Proofs.Site.Building
import MarkupTree.Proofs.Site.Directories
import MarkupTree.Proofs.Values.Fields

/-!
A site with all pages removed but one. That page comes to the same there, its directories can be made
and its file can be written; settings, components and context are the same if no other page is one.
-/

namespace MarkupTree

namespace Site

open FileTree (Beneath Persists)

/-- The tree without the sources of all other pages. -/
def onlyPage (tree : FileTree) (pagesDir : Path) (page : Page) : FileTree :=
  match tree.placeOf pagesDir with
  | .ok place => tree.filter fun found =>
      (pages tree pagesDir).all fun other => other = page || found.1 ≠ place ++ other.way
  | .error _ => tree

section

variable {tree : FileTree} {pagesDir : Path} {page : Page} {place : Place}

theorem mem_of_mem_onlyPage {found : Place × Entry} (member : found ∈ onlyPage tree pagesDir page) :
    found ∈ tree := by
  unfold onlyPage at member
  split at member
  · exact (List.mem_filter.mp member).1
  · exact member

variable (leads : tree.placeOf pagesDir = .ok place)

include leads

theorem held?_onlyPage {other : Place}
    (spared : ∀ another ∈ pages tree pagesDir, another ≠ page → other ≠ place ++ another.way) :
    (onlyPage tree pagesDir page).held? other = tree.held? other := by
  have kept : ((pages tree pagesDir).all fun another =>
      another = page || other ≠ place ++ another.way) = true := by
    refine List.all_eq_true.mpr fun another member => ?_
    by_cases same : another = page
    · simp [same]
    · simp [spared another member same]
  rw [onlyPage, leads]
  dsimp only
  rw [FileTree.held?, FileTree.held?, lookup_filter fun own =>
    (pages tree pagesDir).all fun another => another = page || own ≠ place ++ another.way, kept]
  rfl

theorem walk_onlyPage {around : Place} (spared : ∀ another ∈ pages tree pagesDir, another ≠ page →
      ¬around <+: place ++ another.way) :
    (onlyPage tree pagesDir page).walk around = tree.walk around := by
  rw [FileTree.walk, FileTree.walk, onlyPage, leads]
  dsimp only
  rw [List.filterMap_filter]
  refine congrArg (List.mergeSort · _) (List.filterMap_congr fun found _ => ?_)
  by_cases under : around.isPrefixOf found.1 = true
  · rw [if_pos (List.all_eq_true.mpr fun another member => ?_)]
    by_cases same : another = page
    · simp [same]
    · have clear : found.1 ≠ place ++ another.way := by
        intro stands
        rw [stands] at under
        exact spared another member same (List.isPrefixOf_iff_prefix.mp under)
      simp [clear]
  · simp [under]

theorem eq_of_mem_onlyPage {other : Page} {text : String} (listed : other ∈ pages tree pagesDir)
    (member : (place ++ other.way, .file text) ∈ onlyPage tree pagesDir page) : other = page := by
  rw [onlyPage, leads] at member
  have spared := List.all_eq_true.mp (List.mem_filter.mp member).2 other listed
  simpa using spared

variable (formed : tree.WellFormed) (directory : tree.held? place = some .directory)
  (present : page ∈ pages tree pagesDir)

include formed

theorem persists_onlyPage : Persists tree (onlyPage tree pagesDir page) := by
  intro other held
  rw [held?_onlyPage leads, held]
  rintro another member _ rfl
  obtain ⟨text, stands, _⟩ := (mem_pages leads).mp member
  rw [formed.held?_of_mem stands] at held
  cases held

theorem wellFormed_onlyPage : (onlyPage tree pagesDir page).WellFormed where
  named found member := formed.named found (mem_of_mem_onlyPage member)
  once := by
    have part : (onlyPage tree pagesDir page).Sublist tree := by
      rw [onlyPage, leads]
      exact List.filter_sublist
    exact formed.once.sublist (part.map Prod.fst)
  rooted found member :=
    persists_onlyPage leads formed _ (formed.rooted found (mem_of_mem_onlyPage member))

omit leads in
theorem onlyPage_persists : Persists (onlyPage tree pagesDir page) tree := by
  intro other held
  by_cases root : other = []
  · simp [root]
  · exact formed.held?_of_mem (mem_of_mem_onlyPage (FileTree.mem_of_held? root held))

theorem placeOf_onlyPage (path : Path) :
    (∃ target, tree.placeOf path = .ok target ∧
      (onlyPage tree pagesDir page).placeOf path = .ok target) ∨
    (∃ fault, tree.placeOf path = .error fault) ∧
      ∃ fault, (onlyPage tree pagesDir page).placeOf path = .error fault := by
  cases found : tree.placeOf path with
  | ok target => exact .inl ⟨target, rfl, (persists_onlyPage leads formed).placeOf found⟩
  | error fault =>
      cases again : (onlyPage tree pagesDir page).placeOf path with
      | ok target =>
          rw [(onlyPage_persists formed).placeOf again] at found
          cases found
      | error other => exact .inr ⟨⟨fault, rfl⟩, other, rfl⟩

theorem at?_onlyPage {path : Path} (spared : ∀ another ∈ pages tree pagesDir, another ≠ page →
      tree.placeOf path ≠ .ok (place ++ another.way)) :
    (onlyPage tree pagesDir page).at? path = tree.at? path := by
  rw [FileTree.at?, FileTree.at?]
  obtain ⟨target, found, again⟩ | ⟨⟨_, lost⟩, _, again⟩ := placeOf_onlyPage leads formed path
  · rw [found, again]
    refine held?_onlyPage leads fun another member different same => ?_
    exact spared another member different (by rw [found, same])
  · rw [lost, again]

theorem read?_onlyPage {path : Path} (spared : ∀ another ∈ pages tree pagesDir, another ≠ page →
      tree.placeOf path ≠ .ok (place ++ another.way)) :
    (onlyPage tree pagesDir page).read? path = tree.read? path := by
  rw [FileTree.read?, FileTree.read?, at?_onlyPage leads formed spared]

theorem documents_onlyPage {path : Path} (spared : ∀ another ∈ pages tree pagesDir, another ≠ page →
      ∀ around, tree.placeOf path = .ok around → ¬around <+: place ++ another.way) :
    (onlyPage tree pagesDir page).documents path = tree.documents path := by
  rw [FileTree.documents, FileTree.documents]
  obtain ⟨around, found, again⟩ | ⟨⟨_, lost⟩, _, again⟩ := placeOf_onlyPage leads formed path
  · rw [found, again]
    dsimp only
    rw [walk_onlyPage leads fun another member different => spared another member different around found]
  · rw [lost, again]

omit formed in
theorem held?_source_onlyPage :
    (onlyPage tree pagesDir page).held? (place ++ page.way) = tree.held? (place ++ page.way) := by
  refine held?_onlyPage leads fun another member different same => ?_
  have equal := List.append_cancel_left same
  obtain ⟨way⟩ := page
  obtain ⟨other⟩ := another
  cases equal
  exact different rfl

include directory present

theorem holds_onlyPage {text : String} (holds : page.Holds tree pagesDir text) :
    page.Holds (onlyPage tree pagesDir page) pagesDir text := by
  have persists : Persists tree (onlyPage tree pagesDir page) := persists_onlyPage leads formed
  have source := placeOf_source_of_mem_pages formed leads directory present
  obtain ⟨own, leads', document, held⟩ := holds
  rw [source] at leads'
  cases leads'
  exact ⟨place ++ page.way, persists.placeOf source, document,
    (held?_source_onlyPage leads).trans held⟩

omit directory in
theorem pages_onlyPage : pages (onlyPage tree pagesDir page) pagesDir = [page] := by
  have persists : Persists tree (onlyPage tree pagesDir page) := persists_onlyPage leads formed
  have again := persists.placeOf leads
  have alone : (onlyPage tree pagesDir page).WellFormed := wellFormed_onlyPage leads formed
  have listed (other : Page) : other ∈ pages (onlyPage tree pagesDir page) pagesDir ↔
      other ∈ [page] := by
    rw [mem_pages again, List.mem_singleton]
    constructor
    · rintro ⟨text, stands, document⟩
      have among := (mem_pages leads).mpr ⟨text, mem_of_mem_onlyPage stands, document⟩
      exact eq_of_mem_onlyPage leads among stands
    · rintro rfl
      obtain ⟨text, stands, document⟩ := (mem_pages leads).mp present
      refine ⟨text, ?_, document⟩
      have held := (held?_source_onlyPage leads).trans (formed.held?_of_mem stands)
      exact FileTree.mem_of_held? (formed.named _ stands).1 held
  -- neither listing names a page twice, so the same members make the same list
  refine List.perm_singleton.mp ?_
  exact (List.perm_ext_iff_of_nodup (nodup_pages alone again) (List.nodup_singleton page)).mpr listed

theorem pageMarkup_onlyPage (renderer : Renderer) :
    pageMarkup renderer (onlyPage tree pagesDir page) pagesDir page =
      pageMarkup renderer tree pagesDir page := by
  obtain ⟨text, holds⟩ := exists_holds_of_mem_pages formed leads directory present
  exact pageMarkup_congr holds (holds_onlyPage leads formed directory present holds)

omit directory present in
theorem beneath_onlyPage {renderer : Renderer} {outDir : Path} {built : FileTree} {others : List Page}
    (run : Built renderer tree pagesDir outDir others built) :
    Beneath (onlyPage tree pagesDir page) built := by
  have alone : (onlyPage tree pagesDir page).WellFormed := wellFormed_onlyPage leads formed
  have back : Persists (onlyPage tree pagesDir page) tree := onlyPage_persists formed
  constructor
  · exact back.trans run.persists
  · intro other text directory held
    have given : other ≠ [] := by
      rintro rfl
      cases held
    have stands := formed.held?_of_mem (mem_of_mem_onlyPage (FileTree.mem_of_held? given held))
    obtain ⟨content, file⟩ := run.file_of_file stands
    rw [directory] at file
    cases file
  · intro other directory
    by_cases root : other = []
    · simp [root]
    · exact alone.rooted _ (FileTree.mem_of_held? root directory)

theorem unhindered_onlyPage {renderer : Renderer} {outDir : Path} {built : FileTree} {others : List Page}
    (run : Built renderer tree pagesDir outDir others built) (member : page ∈ others) :
    Unhindered renderer pagesDir outDir [page] (onlyPage tree pagesDir page) := by
  have document := isDocument_of_mem_pages formed leads directory present
  have own := pageMarkup_onlyPage leads formed directory present renderer
  have beneath : Beneath (onlyPage tree pagesDir page) built := beneath_onlyPage leads formed run
  cases rendered : pageMarkup renderer tree pagesDir page with
  | error fault =>
      rw [rendered] at own
      exact .cons_error own trivial
  | ok markup =>
      rw [rendered] at own
      obtain ⟨target, output, held⟩ := run.written page member markup rendered
      have named : (page.output outDir).segments = outDir.lead ++ page.way.dropLast ++
          [(Path.splitName (page.way.getLastD "")).1 ++ "." ++ "html"] := by
        rw [document.output_eq, Page.target, List.append_assoc]
      have isName := document.target_names _ (List.mem_append_right _ List.mem_cons_self)
      obtain ⟨grown, saved⟩ := save_completes beneath named isName output held
      exact .cons_ok own saved trivial

theorem held?_output_onlyPage {outDir : Path} {grown : FileTree} {other : Place}
    (output : grown.placeOf (page.output outDir) = .ok other) :
    (onlyPage tree pagesDir page).held? other = tree.held? other := by
  have document := isDocument_of_mem_pages formed leads directory present
  refine held?_onlyPage leads fun another member _ same => ?_
  obtain ⟨_, own, source, extension, _⟩ := exists_holds_of_mem_pages formed leads directory member
  rw [placeOf_source_of_mem_pages formed leads directory member] at source
  cases source
  rw [← same, document.extension?_output output] at extension
  exact absurd extension (by decide)

end

end Site

end MarkupTree
