import MarkupTree.Proofs.Values.Walks
import MarkupTree.Site.Build

/-!
The paths of pages. A page is written under its own way, with another extension, so pages of one site
are written to different places, and none to the place of a document.
-/

namespace MarkupTree

def IsFileName (name : String) : Prop :=
  Path.isVoid name = false ∧ name ≠ ".." ∧ '/' ∉ name.toList

instance : DecidablePred IsFileName := fun name =>
  inferInstanceAs (Decidable (Path.isVoid name = false ∧ name ≠ ".." ∧ '/' ∉ name.toList))

namespace IsFileName

variable {name : String}

theorem ne_empty (isName : IsFileName name) : name ≠ "" := by
  rintro rfl
  exact absurd isName.1 (by decide)

theorem ne_dot (isName : IsFileName name) : name ≠ "." := by
  rintro rfl
  exact absurd isName.1 (by decide)

theorem of_length (long : 2 < name.length) (whole : '/' ∉ name.toList) : IsFileName name := by
  have other {short : String} (few : short.length ≤ 2) : name ≠ short := by
    rintro rfl
    omega
  refine ⟨?_, other (by decide), whole⟩
  rw [Path.isVoid, decide_eq_false (other (by decide)), decide_eq_false (other (by decide))]
  rfl

end IsFileName

namespace Path

variable {front way : List String} {name stem extension : String}

theorem significant_append (plain : isVoid name = false) :
    significant (front ++ [name]) = front ++ [name] := by
  simp [significant, plain]

theorem fileName?_append (isName : IsFileName name) :
    fileName? ⟨front ++ [name]⟩ = some name := by
  simp [fileName?, significant_append isName.1, isName.2.1]

def lead (base : Path) : List String :=
  if base.segments = [""] then []
  else if base.segments.getLast? = some "" then base.segments.dropLast
  else base.segments

theorem join_names (base : Path) (names : ∀ name ∈ way, IsFileName name) :
    base.join ⟨way⟩ = ⟨base.lead ++ way⟩ := by
  have relative : isAbsolute ⟨way⟩ = false := by
    unfold isAbsolute
    split
    · rename_i segments
      exact absurd rfl (names "" (by simp_all)).ne_empty
    · rfl
  unfold join lead
  rw [relative]
  by_cases here : base.segments = [""]
  · simp [here]
  · by_cases ended : base.segments.getLast? = some "" <;> simp [here, ended]

theorem ofText_names (given : way ≠ []) (names : ∀ name ∈ way, IsFileName name) :
    ofText (String.intercalate "/" way) = ⟨way⟩ := by
  have whole : ∀ part ∈ way.map String.toList, '/' ∉ part :=
    List.forall_mem_map.mpr fun name member => (names name member).2.2
  have filled : way.map String.toList ≠ [] := fun none => given (List.map_eq_nil_iff.mp none)
  have apart := Text.pieces_intercalate filled whole
  have slash : "/".toList = ['/'] := by decide
  rw [ofText, String.toList_intercalate, slash, apart, List.map_map]
  simp [Function.comp_def]

theorem eq_of_splitName (split : splitName name = (stem, some extension)) :
    name = stem ++ "." ++ extension ∧ stem ≠ "" := by
  unfold splitName at split
  split at split
  · rename_i ended letters cut
    split at split
    · cases split
    · rename_i given
      cases split
      have reversed := Text.eq_of_cut? cut
      constructor
      · rw [← String.toList_inj, ← List.reverse_inj, reversed]
        simp
      · simpa using given
  · cases split

theorem splitName_append (given : stem ≠ "") (whole : '.' ∉ extension.toList) :
    splitName (stem ++ "." ++ extension) = (stem, some extension) := by
  have cut : Text.cut? '.' (stem ++ "." ++ extension).toList.reverse =
      some (extension.toList.reverse, stem.toList.reverse) := by
    have reversed : (stem ++ "." ++ extension).toList.reverse =
        extension.toList.reverse ++ '.' :: stem.toList.reverse := by simp
    rw [reversed]
    exact Text.cut?_append_of_eq_none (Text.cut?_eq_none (by simpa using whole)) _
  rw [splitName, cut]
  simp [given]

theorem extension?_append (isName : IsFileName name) :
    extension? ⟨front ++ [name]⟩ = (splitName name).2 := by
  rw [extension?, fileName?_append isName, Option.bind_some]

theorem withExtension_append (isName : IsFileName name)
    (parts : splitName name = (stem, some extension)) (other : String) :
    withExtension ⟨front ++ [name]⟩ other = ⟨front ++ [stem ++ "." ++ other]⟩ := by
  rw [withExtension, stem?, fileName?_append isName, Option.map_some, parts,
    significant_append isName.1, List.dropLast_concat]

end Path

namespace Site.Page

variable {page other : Page} {front : List String} {stem : String}

structure IsDocument (page : Page) : Prop where
  names : ∀ name ∈ page.way, IsFileName name
  extension : ∃ front stem, page.way = front ++ [stem ++ "." ++ "json"] ∧ stem ≠ ""

def target (page : Page) : Place :=
  page.way.dropLast ++ [(Path.splitName (page.way.getLastD "")).1 ++ "." ++ "html"]

theorem target_eq (split : page.way = front ++ [stem ++ "." ++ "json"]) (given : stem ≠ "") :
    page.target = front ++ [stem ++ "." ++ "html"] := by
  have parts := Path.splitName_append given (by decide : '.' ∉ "json".toList)
  simp only [target, split, List.dropLast_concat, List.getLastD_concat, parts]

theorem source_eq (document : page.IsDocument) (pagesDir : Path) :
    page.source pagesDir = ⟨pagesDir.lead ++ page.way⟩ :=
  Path.join_names pagesDir document.names

namespace IsDocument

theorem target_names (document : page.IsDocument) : ∀ name ∈ page.target, IsFileName name := by
  obtain ⟨front, stem, split, given⟩ := document.extension
  have names := document.names
  rw [split] at names
  rw [target_eq split given]
  intro name member
  rcases List.mem_append.mp member with inside | last
  · exact names name (List.mem_append_left _ inside)
  · obtain rfl := List.mem_singleton.mp last
    have whole : '/' ∉ stem.toList := by
      have own := (names _ (List.mem_append_right _ List.mem_cons_self)).2.2
      simp only [String.toList_append, List.mem_append, not_or] at own
      exact own.1.1
    refine .of_length ?_ (by simp [whole])
    rw [String.length_append, String.length_append]
    have extension : "html".length = 4 := by decide
    omega

theorem extension?_target (document : page.IsDocument) (base : List String) :
    Path.extension? ⟨base ++ page.target⟩ = some "html" := by
  obtain ⟨front, stem, split, given⟩ := document.extension
  have names := document.target_names
  rw [target_eq split given] at names ⊢
  rw [← List.append_assoc, Path.extension?_append (names _ (by simp)),
    Path.splitName_append given (by decide)]

theorem output_eq (document : page.IsDocument) (outDir : Path) :
    page.output outDir = ⟨outDir.lead ++ page.target⟩ := by
  obtain ⟨front, stem, split, given⟩ := document.extension
  have names := document.names
  have last : IsFileName (stem ++ "." ++ "json") := names _ (by simp [split])
  have parts := Path.splitName_append given (by decide : '.' ∉ "json".toList)
  have filled : page.way ≠ [] := by simp [split]
  calc page.output outDir
    _ = (outDir.join ⟨page.way⟩).withExtension "html" := by
      rw [output, name, Path.ofText_names filled names]
    _ = Path.withExtension ⟨outDir.lead ++ front ++ [stem ++ "." ++ "json"]⟩ "html" := by
      rw [Path.join_names outDir names, split, List.append_assoc]
    _ = ⟨outDir.lead ++ front ++ [stem ++ "." ++ "html"]⟩ :=
      Path.withExtension_append last parts "html"
    _ = ⟨outDir.lead ++ page.target⟩ := by rw [target_eq split given, List.append_assoc]

theorem eq_of_target_eq (document : page.IsDocument) (another : other.IsDocument)
    (same : page.target = other.target) : page = other := by
  obtain ⟨front, stem, split, given⟩ := document.extension
  obtain ⟨others, label, parted, some⟩ := another.extension
  rw [target_eq split given, target_eq parted some] at same
  obtain ⟨rfl, last⟩ := List.append_inj' same rfl
  have stems : stem = label := by
    have letters := congrArg String.toList (List.singleton_inj.mp last)
    simp only [String.toList_append, List.append_cancel_right_eq] at letters
    exact String.toList_inj.mp letters
  obtain ⟨way⟩ := page
  obtain ⟨another⟩ := other
  subst stems
  exact congrArg Page.mk (split.trans parted.symm)

theorem eq_of_output_eq (document : page.IsDocument) (another : other.IsDocument) (outDir : Path)
    (same : page.output outDir = other.output outDir) : page = other := by
  rw [document.output_eq, another.output_eq] at same
  exact document.eq_of_target_eq another (List.append_cancel_left (Path.mk.inj same))

end IsDocument

end Site.Page

end MarkupTree
