import Mathlib.Data.List.Induction
import Mathlib.Data.List.Nodup
import MarkupTree.Proofs.Site.Trees

/-!
The pages of a tree. Each is a document under the pages directory; its source and its output are told
apart by their extensions, and outputs of different pages by their ways.
-/

namespace MarkupTree

namespace FileTree

variable {tree : FileTree} {place : Place} {entry : Entry} {path : Path}

/-- A tree as it stands on a disk: places are spelled by names, each place holds one entry, and what
is around an entry is a directory. -/
structure WellFormed (tree : FileTree) : Prop where
  named : ∀ found ∈ tree, found.1 ≠ [] ∧ ∀ name ∈ found.1, IsFileName name
  once : (tree.map Prod.fst).Nodup
  rooted : ∀ found ∈ tree, held? tree found.1.dropLast = some .directory

theorem mem_of_held? (inside : place ≠ []) (held : held? tree place = some entry) :
    (place, entry) ∈ tree := by
  rw [held?, if_neg inside] at held
  obtain ⟨before, behind, rfl, _⟩ := List.lookup_eq_some_iff.mp held
  exact List.mem_append_right _ List.mem_cons_self

theorem lookup_of_mem (once : (tree.map Prod.fst).Nodup) (present : (place, entry) ∈ tree) :
    tree.lookup place = some entry := by
  induction tree with
  | nil => cases present
  | cons first rest ih =>
      obtain ⟨own, held⟩ := first
      obtain ⟨fresh, others⟩ := List.nodup_cons.mp once
      rcases List.mem_cons.mp present with same | inside
      · cases same
        simp
      · have different : place ≠ own := by
          rintro rfl
          exact fresh (List.mem_map.mpr ⟨_, inside, rfl⟩)
        rw [lookup_cons_of_ne different]
        exact ih others inside

namespace WellFormed

variable (formed : tree.WellFormed)

include formed

theorem held?_of_mem (present : (place, entry) ∈ tree) : held? tree place = some entry := by
  rw [held?, if_neg (formed.named _ present).1]
  exact lookup_of_mem formed.once present

theorem directory_above {names : List String} (given : names ≠ [])
    (held : held? tree (place ++ names) ≠ none) : held? tree place = some .directory := by
  induction names using List.reverseRecOn with
  | nil => exact absurd rfl given
  | append_singleton front name ih =>
      obtain ⟨entry, stands⟩ := Option.ne_none_iff_exists'.mp held
      have present := mem_of_held? (by simp) stands
      have above := formed.rooted _ present
      rw [← List.append_assoc, List.dropLast_concat] at above
      by_cases last : front = []
      · simpa [last] using above
      · refine ih last ?_
        rw [above]
        simp

theorem follow_of_mem {here : Place} {names : List String} (present : (here ++ names, entry) ∈ tree) :
    follow tree here names = .ok (here ++ names) := by
  have plain := (formed.named _ present).2
  have held := formed.held?_of_mem present
  refine follow_names (fun name member => plain name (List.mem_append_right _ member)) ?_
  rintro front other ⟨rest, split⟩
  have more : rest ≠ [] := by
    rintro rfl
    exact other (by simpa using split)
  refine formed.directory_above more ?_
  rw [List.append_assoc, split, held]
  simp

end WellFormed

def found? (path : Path) (place : Place) (found : Place × Entry) : Option (Place × String) :=
  if place.isPrefixOf found.1 then
    match found.2 with
    | .file text =>
        if (path.join ⟨found.1.drop place.length⟩).extension? = some "json" then
          some (found.1.drop place.length, text)
        else none
    | .directory => none
  else none

theorem found?_eq_some {found : Place × Entry} {way : Place} {text : String} :
    found? path place found = some (way, text) ↔
      found = (place ++ way, .file text) ∧ (path.join ⟨way⟩).extension? = some "json" := by
  obtain ⟨own, entry⟩ := found
  unfold found?
  constructor
  · intro listed
    split at listed
    · rename_i part
      obtain ⟨way, rfl⟩ := List.isPrefixOf_iff_prefix.mp part
      cases entry with
      | directory => cases listed
      | file text =>
          simp only [List.drop_left] at listed
          split at listed
          · rename_i document
            cases listed
            exact ⟨rfl, document⟩
          · cases listed
    · cases listed
  · rintro ⟨same, document⟩
    cases same
    have part : place.isPrefixOf (place ++ way) = true :=
      List.isPrefixOf_iff_prefix.mpr (List.prefix_append place way)
    simp [part, document]

theorem documents_perm (leads : placeOf tree path = .ok place) :
    (documents tree path).Perm (tree.filterMap (found? path place)) := by
  rw [documents, leads]
  refine ((List.mergeSort_perm _ _).filterMap _).trans ?_
  rw [List.filterMap_filterMap]
  refine List.Perm.of_eq (congrArg (List.filterMap · tree) (funext fun found => ?_))
  rw [found?]
  split <;> rfl

theorem documents_of_ordered (leads : placeOf tree path = .ok place)
    (ordered : (tree.filterMap fun found =>
      if place.isPrefixOf found.1 then some (found.1.drop place.length, found.2) else none).Pairwise
        fun a b => before a.1 b.1 = true) :
    documents tree path = tree.filterMap (found? path place) := by
  rw [documents, leads]
  dsimp only
  rw [walk, List.mergeSort_of_pairwise ordered, List.filterMap_filterMap]
  refine List.filterMap_congr fun found _ => ?_
  rw [found?]
  split <;> rfl

theorem mem_documents (leads : placeOf tree path = .ok place) {way : Place} {text : String} :
    (way, text) ∈ documents tree path ↔
      (place ++ way, .file text) ∈ tree ∧ (path.join ⟨way⟩).extension? = some "json" := by
  rw [(documents_perm leads).mem_iff, List.mem_filterMap]
  constructor
  · rintro ⟨found, present, listed⟩
    obtain ⟨rfl, document⟩ := found?_eq_some.mp listed
    exact ⟨present, document⟩
  · rintro ⟨present, document⟩
    exact ⟨_, present, found?_eq_some.mpr ⟨rfl, document⟩⟩

theorem nodup_documents (once : (tree.map Prod.fst).Nodup) (leads : placeOf tree path = .ok place) :
    ((documents tree path).map Prod.fst).Nodup := by
  refine (((documents_perm leads).map Prod.fst).nodup_iff).mpr ?_
  rw [List.Nodup, List.pairwise_map] at once ⊢
  refine once.filterMap _ ?_
  rintro a b different ⟨way, text⟩ first ⟨other, content⟩ second rfl
  obtain ⟨rfl, _⟩ := found?_eq_some.mp first
  obtain ⟨rfl, _⟩ := found?_eq_some.mp second
  exact different rfl

end FileTree

namespace Site

open FileTree (Receives)

variable {tree grown : FileTree} {pagesDir outDir : Path} {page other : Page} {place : Place}

def pages (tree : FileTree) (pagesDir : Path) : List Page :=
  (tree.documents pagesDir).map fun found => ⟨found.1⟩

def Page.Holds (page : Page) (tree : FileTree) (pagesDir : Path) (text : String) : Prop :=
  ∃ place, tree.placeOf (page.source pagesDir) = .ok place ∧
    Path.extension? ⟨place⟩ = some "json" ∧ tree.held? place = some (.file text)

theorem mem_pages (leads : tree.placeOf pagesDir = .ok place) : page ∈ pages tree pagesDir ↔
    ∃ text, (place ++ page.way, .file text) ∈ tree ∧
      (page.source pagesDir).extension? = some "json" := by
  obtain ⟨way⟩ := page
  simp only [pages, List.mem_map, Prod.exists, FileTree.mem_documents leads, Page.mk.injEq]
  constructor
  · rintro ⟨_, text, found, rfl⟩
    exact ⟨text, found⟩
  · rintro ⟨text, found⟩
    exact ⟨way, text, found, rfl⟩

theorem nodup_pages (formed : tree.WellFormed) (leads : tree.placeOf pagesDir = .ok place) :
    (pages tree pagesDir).Nodup := by
  have ways := FileTree.nodup_documents formed.once leads
  have same : pages tree pagesDir = ((tree.documents pagesDir).map Prod.fst).map Page.mk :=
    List.map_map.symm
  rw [same]
  exact ways.map fun first second equal => congrArg Page.way equal

section

variable (formed : tree.WellFormed) (leads : tree.placeOf pagesDir = .ok place)
  (directory : tree.held? place = some .directory) (present : page ∈ pages tree pagesDir)

include formed leads directory present

theorem isDocument_of_mem_pages : page.IsDocument := by
  obtain ⟨text, stands, document⟩ := (mem_pages leads).mp present
  have names : ∀ name ∈ page.way, IsFileName name :=
    fun name member => (formed.named _ stands).2 name (List.mem_append_right _ member)
  have filled : page.way ≠ [] := by
    intro empty
    have held := formed.held?_of_mem stands
    rw [empty, List.append_nil, directory] at held
    cases held
  refine ⟨names, ?_⟩
  have split : page.way = page.way.dropLast ++ [page.way.getLast filled] :=
    (List.dropLast_append_getLast filled).symm
  have last := names _ (List.getLast_mem filled)
  rw [Page.source, Path.join_names pagesDir names, split, ← List.append_assoc,
    Path.extension?_append last] at document
  obtain ⟨spelled, given⟩ := Path.eq_of_splitName (Prod.ext rfl document)
  exact ⟨page.way.dropLast, _, split.trans (by rw [← spelled]), given⟩

theorem placeOf_source_of_mem_pages :
    tree.placeOf (page.source pagesDir) = .ok (place ++ page.way) := by
  have document := isDocument_of_mem_pages formed leads directory present
  obtain ⟨text, stands, _⟩ := (mem_pages leads).mp present
  rw [Page.source_eq document pagesDir]
  exact FileTree.follow_append.mpr ⟨place, FileTree.follow_lead leads, formed.follow_of_mem stands⟩

theorem exists_holds_of_mem_pages : ∃ text, page.Holds tree pagesDir text := by
  have document := isDocument_of_mem_pages formed leads directory present
  have source := placeOf_source_of_mem_pages formed leads directory present
  obtain ⟨text, stands, _⟩ := (mem_pages leads).mp present
  refine ⟨text, place ++ page.way, source, ?_, formed.held?_of_mem stands⟩
  obtain ⟨front, stem, split, given⟩ := document.extension
  have last : IsFileName (stem ++ "." ++ "json") := document.names _ (by simp [split])
  rw [split, ← List.append_assoc, Path.extension?_append last,
    Path.splitName_append given (by decide)]

end

namespace Page

theorem IsDocument.target_of_placeOf (document : page.IsDocument)
    (leads : tree.placeOf (page.output outDir) = .ok place) :
    ∃ base, tree.follow [] outDir.lead = .ok base ∧ place = base ++ page.target := by
  rw [document.output_eq outDir] at leads
  obtain ⟨base, first, last⟩ := FileTree.follow_append.mp leads
  exact ⟨base, first, FileTree.eq_append_of_follow document.target_names last⟩

theorem IsDocument.extension?_output (document : page.IsDocument)
    (leads : tree.placeOf (page.output outDir) = .ok place) :
    Path.extension? ⟨place⟩ = some "html" := by
  obtain ⟨base, _, rfl⟩ := document.target_of_placeOf leads
  exact document.extension?_target base

theorem IsDocument.eq_of_placeOf (document : page.IsDocument) (another : other.IsDocument)
    (leads : tree.placeOf (page.output outDir) = .ok place)
    (meets : tree.placeOf (other.output outDir) = .ok place) : page = other := by
  obtain ⟨base, first, rfl⟩ := document.target_of_placeOf leads
  obtain ⟨same, second, equal⟩ := another.target_of_placeOf meets
  rw [first] at second
  cases second
  exact document.eq_of_target_eq another (List.append_cancel_left equal)

/-- No output is written over a source. -/
theorem Holds.receives {text content : String} (holds : page.Holds tree pagesDir text)
    (receives : Receives tree grown place content) (output : Path.extension? ⟨place⟩ = some "html") :
    page.Holds grown pagesDir text := by
  obtain ⟨own, leads, document, held⟩ := holds
  have different : own ≠ place := by
    rintro rfl
    rw [document] at output
    exact absurd output (by decide)
  exact ⟨own, receives.persists.placeOf leads, document,
    (receives.others own different).held held⟩

theorem Holds.loadPage {text : String} (holds : page.Holds tree pagesDir text) :
    loadPage tree (page.source pagesDir) =
      document (page.source pagesDir) Fragment.ofJson? text := by
  obtain ⟨own, leads, _, held⟩ := holds
  rw [Site.loadPage, load, FileTree.read?, FileTree.at?, leads]
  dsimp only
  rw [held]

end Page

end Site

end MarkupTree
