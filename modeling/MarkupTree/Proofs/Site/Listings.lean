import Mathlib.Data.List.Sort
import Mathlib.Data.String.Basic
import MarkupTree.Proofs.Site.Pages

/-!
Listings of a directory: each document under it once, in the order of a walk that sorts the names of
each directory and goes into each.
-/

namespace MarkupTree

namespace Path

variable {base : Path} {way : List String}

theorem extension?_join (given : way ≠ []) (names : ∀ name ∈ way, IsFileName name) :
    (base.join ⟨way⟩).extension? = extension? ⟨way⟩ := by
  rw [join_names base names]
  induction way using List.reverseRecOn with
  | nil => exact absurd rfl given
  | append_singleton front name _ =>
      have last : IsFileName name := names name (by simp)
      rw [← List.append_assoc, extension?_append last, extension?_append last]

theorem exists_stem? {path : Path} {extension : String} (ended : path.extension? = some extension) :
    ∃ stem, path.stem? = some stem := by
  obtain ⟨name, named, _⟩ := Option.bind_eq_some_iff.mp ended
  exact ⟨(splitName name).1, by rw [stem?, named, Option.map_some]⟩

end Path

/-- Where two places part, the first goes on by the lesser name. -/
def Precedes (first second : Place) : Prop :=
  ∃ (common : Place) (lesser greater : String) (rest behind : Place),
    first = common ++ lesser :: rest ∧ second = common ++ greater :: behind ∧ lesser < greater

theorem precedes_cons_cons {name other : String} {first second : Place} :
    Precedes (name :: first) (other :: second) ↔
      name < other ∨ name = other ∧ Precedes first second := by
  constructor
  · rintro ⟨common, lesser, greater, rest, behind, left, right, less⟩
    cases common with
    | nil =>
        cases left
        cases right
        exact .inl less
    | cons shared common =>
        cases left
        cases right
        exact .inr ⟨rfl, common, lesser, greater, rest, behind, rfl, rfl, less⟩
  · rintro (less | ⟨rfl, common, lesser, greater, rest, behind, rfl, rfl, less⟩)
    · exact ⟨[], name, other, first, second, rfl, rfl, less⟩
    · exact ⟨name :: common, lesser, greater, rest, behind, rfl, rfl, less⟩

theorem Precedes.asymm {first second : Place} (precedes : Precedes first second) :
    ¬Precedes second first := by
  induction first generalizing second with
  | nil =>
      obtain ⟨common, _, _, _, _, empty, _⟩ := precedes
      cases common <;> cases empty
  | cons name first ih =>
      intro back
      cases second with
      | nil =>
          obtain ⟨common, _, _, _, _, empty, _⟩ := back
          cases common <;> cases empty
      | cons other second =>
          rcases precedes_cons_cons.mp precedes with less | ⟨rfl, further⟩
          · rcases precedes_cons_cons.mp back with greater | ⟨rfl, _⟩
            · exact lt_asymm less greater
            · exact lt_irrefl _ less
          · rcases precedes_cons_cons.mp back with less | ⟨_, again⟩
            · exact lt_irrefl _ less
            · exact ih further again

namespace FileTree

variable {tree : FileTree} {place : Place} {dir : Path}

/-! Walking order is total, and a place comes behind whatever leads to it. -/

theorem before_cons_cons {name other : String} {rest behind : Place} :
    before (name :: rest) (other :: behind) = true ↔
      name < other ∨ name = other ∧ before rest behind = true := by
  rw [before]
  by_cases same : name = other
  · simp [same]
  · simp [same]

theorem before_trans (a b c : Place) (first : before a b = true) (second : before b c = true) :
    before a c = true := by
  induction a generalizing b c with
  | nil => rfl
  | cons x xs ih =>
      cases b with
      | nil => cases first
      | cons y ys =>
          cases c with
          | nil => cases second
          | cons z zs =>
              rw [before_cons_cons] at first second ⊢
              rcases first with less | ⟨rfl, first⟩
              · rcases second with further | ⟨rfl, _⟩
                · exact .inl (less.trans further)
                · exact .inl less
              · rcases second with less | ⟨rfl, second⟩
                · exact .inl less
                · exact .inr ⟨rfl, ih ys zs first second⟩

theorem before_total (a b : Place) : (before a b || before b a) = true := by
  rw [Bool.or_eq_true]
  induction a generalizing b with
  | nil => exact .inl rfl
  | cons x xs ih =>
      cases b with
      | nil => exact .inr rfl
      | cons y ys =>
          rw [before_cons_cons, before_cons_cons]
          rcases lt_trichotomy x y with less | rfl | greater
          · exact .inl (.inl less)
          · exact (ih ys).imp (fun ahead => .inr ⟨rfl, ahead⟩) fun behind => .inr ⟨rfl, behind⟩
          · exact .inr (.inl greater)

theorem prefix_or_precedes_of_before {a b : Place} (ahead : before a b = true) :
    a <+: b ∨ Precedes a b := by
  induction a generalizing b with
  | nil => exact .inl List.nil_prefix
  | cons x xs ih =>
      cases b with
      | nil => cases ahead
      | cons y ys =>
          rcases before_cons_cons.mp ahead with less | ⟨rfl, further⟩
          · exact .inr (precedes_cons_cons.mpr (.inl less))
          · exact (ih further).imp (List.prefix_cons_inj x).mpr fun parted =>
              precedes_cons_cons.mpr (.inr ⟨rfl, parted⟩)

/-- All documents under a place with their ways from there and their texts, in walking order. -/
structure IsListing (tree : FileTree) (place : Place) (files : List (Place × String)) : Prop where
  listed : ∀ way text, (way, text) ∈ files ↔
    held? tree (place ++ way) = some (.file text) ∧ Path.extension? ⟨way⟩ = some "json"
  ordered : files.Pairwise fun first second => Precedes first.1 second.1

theorem IsListing.unique {files others : List (Place × String)} (first : IsListing tree place files)
    (second : IsListing tree place others) : files = others := by
  have irreflexive : Std.Irrefl fun a b : Place × String => Precedes a.1 b.1 :=
    ⟨fun _ own => own.asymm own⟩
  have antisymmetric : Std.Antisymm fun a b : Place × String => Precedes a.1 b.1 :=
    ⟨fun _ _ ahead back => absurd back ahead.asymm⟩
  refine first.ordered.eq_of_mem_iff second.ordered fun file => ?_
  exact (first.listed file.1 file.2).trans (second.listed file.1 file.2).symm

theorem documents_pairwise (leads : placeOf tree dir = .ok place) :
    (documents tree dir).Pairwise fun first second => before first.1 second.1 = true := by
  have walked : (walk tree place).Pairwise fun first second => before first.1 second.1 = true :=
    List.pairwise_mergeSort (fun a b c => before_trans a.1 b.1 c.1)
      (fun a b => before_total a.1 b.1) _
  rw [documents, leads]
  refine walked.filterMap _ ?_
  rintro ⟨way, entry⟩ ⟨other, another⟩ ahead found first next second
  cases entry with
  | directory => cases first
  | file text =>
      cases another with
      | directory => cases second
      | file content =>
          obtain ⟨_, same⟩ := Option.ite_none_right_eq_some.mp first
          obtain ⟨_, equal⟩ := Option.ite_none_right_eq_some.mp second
          cases same
          cases equal
          exact ahead

section

variable (formed : tree.WellFormed) (leads : placeOf tree dir = .ok place)
  (directory : held? tree place = some .directory)

include directory

theorem ne_nil_of_file {way : Place} {text : String}
    (held : held? tree (place ++ way) = some (.file text)) : way ≠ [] := by
  rintro rfl
  rw [List.append_nil, directory] at held
  cases held

include formed leads

theorem mem_documents_iff {way : Place} {text : String} : (way, text) ∈ documents tree dir ↔
    held? tree (place ++ way) = some (.file text) ∧ Path.extension? ⟨way⟩ = some "json" := by
  have ended (present : (place ++ way, .file text) ∈ tree) :
      (dir.join ⟨way⟩).extension? = Path.extension? ⟨way⟩ :=
    Path.extension?_join (ne_nil_of_file directory (formed.held?_of_mem present))
      fun name member => (formed.named _ present).2 name (List.mem_append_right _ member)
  rw [mem_documents leads]
  constructor
  · rintro ⟨present, document⟩
    exact ⟨formed.held?_of_mem present, by rw [← ended present, document]⟩
  · rintro ⟨held, document⟩
    have inside : place ++ way ≠ [] :=
      List.append_ne_nil_of_right_ne_nil _ (ne_nil_of_file directory held)
    have present := mem_of_held? inside held
    exact ⟨present, by rw [ended present, document]⟩

theorem not_prefix_of_documents {first second : Place × String}
    (member : first ∈ documents tree dir) (another : second ∈ documents tree dir)
    (other : first.1 ≠ second.1) : ¬first.1 <+: second.1 := by
  rintro ⟨rest, split⟩
  have held := ((mem_documents_iff formed leads directory).mp member).1
  have further := ((mem_documents_iff formed leads directory).mp another).1
  have more : rest ≠ [] := by
    rintro rfl
    exact other (by simpa using split)
  have above : held? tree (place ++ first.1) = some .directory := by
    refine formed.directory_above more ?_
    rw [List.append_assoc, split, further]
    simp
  rw [held] at above
  cases above

theorem isListing_documents : IsListing tree place (documents tree dir) where
  listed _ _ := mem_documents_iff formed leads directory
  ordered := by
    have once := nodup_documents formed.once leads
    rw [List.Nodup, List.pairwise_map] at once
    refine ((documents_pairwise leads).and once).imp_of_mem ?_
    rintro first second member another ⟨ahead, other⟩
    refine (prefix_or_precedes_of_before ahead).resolve_left ?_
    exact not_prefix_of_documents formed leads directory member another other

theorem isListing_iff {files : List (Place × String)} :
    IsListing tree place files ↔ files = documents tree dir := by
  have listing := isListing_documents formed leads directory
  constructor
  · intro own
    exact own.unique listing
  · rintro rfl
    exact listing

end

end FileTree

end MarkupTree
