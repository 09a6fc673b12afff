import Mathlib.Data.List.DropRight
import MarkupTree.Proofs.Site.Pages

/-!
When directories can be made and files be written. Where a path leads to a directory of some tree, its
directories can be made in every tree beneath that one: nothing stands in their way there either.
-/

namespace MarkupTree

namespace Path

variable {path : Path}

theorem exists_voids (segments : List String) :
    ∃ voids, significant segments ++ voids = segments ∧ ∀ segment ∈ voids, isVoid segment = true :=
  ⟨segments.rtakeWhile isVoid, List.rdropWhile_append_rtakeWhile,
    fun _ member => List.mem_rtakeWhile_imp member⟩

theorem significant_cases (segments : List String) : significant segments = [] ∨
    ∃ front name, significant segments = front ++ [name] ∧ isVoid name = false := by
  by_cases none : significant segments = []
  · exact .inl none
  · have last : ¬isVoid ((significant segments).getLast none) = true :=
      List.rdropWhile_last_not isVoid segments none
    exact .inr ⟨_, _, (List.dropLast_append_getLast none).symm, by simpa using last⟩

theorem length_significant_le (segments : List String) :
    (significant segments).length ≤ segments.length :=
  (List.rdropWhile_prefix isVoid segments).length_le

theorem significant_parent (path : Path) :
    significant path.parent.segments = significant (significant path.segments).dropLast := by
  unfold parent
  split
  · rename_i root
    rw [root]
    split <;> rfl
  · exact List.rdropWhile_idempotent isVoid _

theorem parent_cases (path : Path) : (∀ segment ∈ path.parent.segments, segment = "") ∨
    ∃ front name, path.parent.segments = front ++ [name] ∧ isVoid name = false := by
  unfold parent
  split
  · left
    split <;> simp
  · rename_i given
    rcases significant_cases (significant path.segments).dropLast with none | named
    · exact absurd none given
    · exact .inr named

end Path

namespace FileTree

variable {tree lower upper grown : FileTree} {here place above target : Place} {path : Path}
  {segments front : List String} {name : String} {taken : IoFault}

def Enters (tree : FileTree) (segments : List String) : Prop :=
  ∃ place, follow tree [] segments = .ok place ∧ held? tree place = some .directory

theorem isDirectory_iff : tree.isDirectory path = true ↔
    ∃ place, placeOf tree path = .ok place ∧ held? tree place = some .directory := by
  rw [isDirectory, decide_eq_true_iff, at?]
  constructor
  · intro held
    split at held
    · rename_i place leads
      exact ⟨place, leads, held⟩
    · cases held
  · rintro ⟨place, leads, held⟩
    rw [leads]
    exact held

theorem enters_nil (tree : FileTree) : Enters tree [] := ⟨[], rfl, held?_nil tree⟩

theorem Persists.enters (persists : Persists tree grown) (enters : Enters tree segments) :
    Enters grown segments := by
  obtain ⟨place, leads, held⟩ := enters
  exact ⟨place, persists.follow leads, persists place held⟩

theorem follow_of_directory (held : held? tree here = some .directory) (segment : String)
    (rest : List String) : follow tree here (segment :: rest) =
      follow tree (if Path.isVoid segment then here else if segment = ".." then here.dropLast
        else here ++ [segment]) rest := by
  rw [follow, directoryAt_eq_ok.mpr ⟨held, rfl⟩]
  simp only [bind, Except.bind]
  split
  · rfl
  · split <;> rfl

theorem follow_voids (void : ∀ segment ∈ segments, Path.isVoid segment = true)
    (held : held? tree here = some .directory) : follow tree here segments = .ok here := by
  induction segments with
  | nil => rfl
  | cons segment rest ih =>
      obtain ⟨own, others⟩ := List.forall_mem_cons.mp void
      refine follow_cons.mpr ⟨held, ?_⟩
      rw [if_pos own]
      exact ih others

theorem eq_of_follow_voids (void : ∀ segment ∈ segments, Path.isVoid segment = true)
    (leads : follow tree here segments = .ok target) : target = here := by
  induction segments with
  | nil => exact (Except.ok.inj leads).symm
  | cons segment rest ih =>
      obtain ⟨own, others⟩ := List.forall_mem_cons.mp void
      obtain ⟨_, further⟩ := follow_cons.mp leads
      rw [if_pos own] at further
      exact ih others further

theorem enters_significant : Enters tree (Path.significant segments) ↔ Enters tree segments := by
  obtain ⟨voids, split, void⟩ := Path.exists_voids segments
  constructor
  · rintro ⟨place, leads, held⟩
    refine ⟨place, ?_, held⟩
    rw [← split]
    exact follow_append.mpr ⟨place, leads, follow_voids void held⟩
  · rintro ⟨place, leads, held⟩
    rw [← split] at leads
    obtain ⟨middle, first, rest⟩ := follow_append.mp leads
    obtain rfl := eq_of_follow_voids void rest
    exact ⟨place, first, held⟩

theorem enters_parent :
    Enters tree path.parent.segments ↔ Enters tree (Path.significant path.segments).dropLast := by
  rw [← enters_significant, Path.significant_parent, enters_significant]

theorem enters_of_follow_append (leads : follow tree [] (front ++ [name]) = .ok target) :
    Enters tree front := by
  obtain ⟨above, first, last⟩ := follow_append.mp leads
  exact ⟨above, first, (follow_cons.mp last).1⟩

theorem enters_parent_of_placeOf (leads : placeOf tree path = .ok place) :
    Enters tree path.parent.segments := by
  rw [enters_parent]
  rcases Path.significant_cases path.segments with none | ⟨front, name, named, _⟩
  · rw [none]
    exact enters_nil tree
  · obtain ⟨voids, split, _⟩ := Path.exists_voids path.segments
    rw [placeOf, ← split] at leads
    obtain ⟨middle, first, _⟩ := follow_append.mp leads
    rw [named] at first ⊢
    rw [List.dropLast_concat]
    exact enters_of_follow_append first

/-- No directory of the lower tree is missing in the upper one, and no file is in the way of one. -/
structure Beneath (lower upper : FileTree) : Prop where
  persists : Persists lower upper
  free : ∀ place text, held? upper place = some .directory → held? lower place ≠ some (.file text)
  rooted : ∀ place, held? lower place = some .directory →
    held? lower place.dropLast = some .directory

namespace Beneath

variable (beneath : Beneath lower upper)

include beneath

theorem held?_cases (held : held? upper place = some .directory) :
    held? lower place = some .directory ∨ held? lower place = none := by
  cases stands : held? lower place with
  | none => exact .inr rfl
  | some entry =>
      cases entry with
      | directory => exact .inl rfl
      | file text => exact absurd stands (beneath.free place text held)

theorem follow_cases (leads : follow upper here segments = .ok target) :
    follow lower here segments = .ok target ∨ follow lower here segments = .error .noEntry := by
  induction segments generalizing here with
  | nil => exact .inl leads
  | cons segment rest ih =>
      obtain ⟨held, further⟩ := follow_cons.mp leads
      rcases beneath.held?_cases held with there | missing
      · rcases ih further with reached | lost
        · exact .inl (follow_cons.mpr ⟨there, reached⟩)
        · exact .inr ((follow_of_directory there segment rest).trans lost)
      · right
        rw [follow, directoryAt, missing]
        rfl

theorem put (inside : held? lower above = some .directory)
    (held : held? upper (above ++ [name]) = some .directory) :
    Beneath (FileTree.put lower (above ++ [name]) .directory) upper := by
  have given : above ++ [name] ≠ [] := by simp
  constructor
  · intro place stands
    rw [held?_put given] at stands
    split at stands
    · rename_i same
      rw [same, held]
    · exact beneath.persists place stands
  · intro place text directory stands
    rw [held?_put given] at stands
    split at stands
    · cases stands
    · exact beneath.free place text directory stands
  · intro place stands
    rw [held?_put given] at stands ⊢
    split
    · rfl
    · split at stands
      · rename_i same
        rw [same, List.dropLast_concat, inside]
      · exact beneath.rooted place stands

end Beneath

theorem newPlace_of_enters (leads : follow tree [] front = .ok above)
    (held : held? tree above = some .directory) : newPlace tree (front ++ [name]) taken =
      if name = "." ∨ name = ".." then .error taken else .ok (above ++ [name]) := by
  rw [newPlace, List.dropLast_concat, leads, List.getLast?_concat]
  simp only [bind, Except.bind, directoryAt_eq_ok.mpr ⟨held, rfl⟩]

theorem withoutEndSlashes_append (plain : Path.isVoid name = false) :
    withoutEndSlashes (front ++ [name]) = front ++ [name] := by
  have given : name ≠ "" := by
    rintro rfl
    exact absurd plain (by decide)
  simp [withoutEndSlashes, given]

theorem follow_append_name (leads : follow tree [] front = .ok above)
    (held : held? tree above = some .directory) (plain : Path.isVoid name = false) :
    follow tree [] (front ++ [name]) =
      .ok (if name = ".." then above.dropLast else above ++ [name]) := by
  refine follow_append.mpr ⟨above, leads, ?_⟩
  rw [follow_of_directory held, plain, if_neg Bool.false_ne_true, follow]

theorem ensureDirectory_of_enters {fault : IoFault} (failed : makeDirectory tree path = .error fault)
    (enters : Enters tree path.segments) : ensureDirectory tree path = .ok tree := by
  rw [ensureDirectory, failed]
  dsimp only
  rw [if_pos (isDirectory_iff.mpr enters)]

section

variable (root : ∀ segment ∈ path.segments, segment = "")

include root

theorem enters_root : Enters tree path.segments := by
  have void : ∀ segment ∈ path.segments, Path.isVoid segment = true := by
    intro segment member
    rw [root segment member]
    rfl
  exact ⟨[], follow_voids void (held?_nil tree), held?_nil tree⟩

theorem ensureDirectories_root (steps : ℕ) : ensureDirectories tree steps path = .ok tree := by
  have none : withoutEndSlashes path.segments = [] := by
    simpa [withoutEndSlashes] using root
  have failed : makeDirectory tree path = .error .fileExists := by
    rw [makeDirectory, none]
    rfl
  have ensured := ensureDirectory_of_enters failed (enters_root root)
  cases steps with
  | zero => exact ensured
  | succ steps =>
      rw [ensureDirectories, failed]
      split
      · rfl
      · exact ensured

end

section

variable (split : path.segments = front ++ [name]) (plain : Path.isVoid name = false)

include split plain

theorem makeDirectory_ne_noEntry (inside : Enters tree front) :
    makeDirectory tree path ≠ .error .noEntry := by
  obtain ⟨above, leads, held⟩ := inside
  rw [makeDirectory, split, withoutEndSlashes_append plain, newPlace_of_enters leads held]
  by_cases dots : name = "." ∨ name = ".."
  · simp [dots, bind, Except.bind]
  · simp only [if_neg dots, bind, Except.bind]
    split <;> simp

variable (beneath : Beneath lower upper) (enters : Enters upper path.segments)

include beneath enters

theorem makeDirectory_missing (outside : ¬Enters lower front) :
    makeDirectory lower path = .error .noEntry := by
  obtain ⟨target, leads, _⟩ := enters
  rw [split] at leads
  obtain ⟨above, first, held⟩ := enters_of_follow_append leads
  rw [makeDirectory, split, withoutEndSlashes_append plain, newPlace, List.dropLast_concat]
  rcases beneath.follow_cases first with reached | lost
  · rcases beneath.held?_cases held with there | missing
    · exact absurd ⟨above, reached, there⟩ outside
    · rw [reached]
      simp only [bind, Except.bind, directoryAt, missing]
  · rw [lost]
    rfl

theorem ensureDirectory_completes (inside : Enters lower front) :
    ∃ grown, ensureDirectory lower path = .ok grown ∧ Beneath grown upper ∧
      Enters grown path.segments := by
  obtain ⟨above, leads, held⟩ := inside
  have found : newPlace lower (front ++ [name]) .fileExists =
      if name = "." ∨ name = ".." then .error .fileExists else .ok (above ++ [name]) :=
    newPlace_of_enters leads held
  have reached := follow_append_name leads held plain
  by_cases dots : name = ".."
  · have failed : makeDirectory lower path = .error .fileExists := by
      rw [makeDirectory, split, withoutEndSlashes_append plain, found, if_pos (.inr dots)]
      rfl
    rw [if_pos dots] at reached
    have there : Enters lower path.segments := ⟨_, split ▸ reached, beneath.rooted above held⟩
    exact ⟨lower, ensureDirectory_of_enters failed there, beneath, there⟩
  · have visible : ¬(name = "." ∨ name = "..") := by
      rintro (dot | other)
      · rw [dot] at plain
        exact absurd plain (by decide)
      · exact dots other
    rw [if_neg dots] at reached
    rw [if_neg visible] at found
    have directory : held? upper (above ++ [name]) = some .directory := by
      obtain ⟨target, there, stands⟩ := enters
      rw [split, beneath.persists.follow reached] at there
      cases there
      exact stands
    have made : makeDirectory lower path =
        if (held? lower (above ++ [name])).isSome then .error .fileExists
        else .ok (put lower (above ++ [name]) .directory) := by
      rw [makeDirectory, split, withoutEndSlashes_append plain, found]
      cases stands : held? lower (above ++ [name]) <;> simp [stands, bind, Except.bind]
    rcases beneath.held?_cases directory with there | missing
    · rw [there] at made
      have entered : Enters lower path.segments := ⟨_, split ▸ reached, there⟩
      exact ⟨lower, ensureDirectory_of_enters made entered, beneath, entered⟩
    · rw [missing] at made
      have grown := beneath.put held directory
      have persists : Persists lower (put lower (above ++ [name]) .directory) := by
        intro place stands
        rw [held?_put (by simp)]
        split
        · rfl
        · exact stands
      refine ⟨put lower (above ++ [name]) .directory, ?_, grown, above ++ [name], ?_, ?_⟩
      · rw [ensureDirectory, made]
        rfl
      · rw [split]
        exact persists.follow reached
      · rw [held?_put (by simp), if_pos rfl]

end

/-- Directories can be made wherever the upper tree has them, and those above them first. -/
theorem ensureDirectories_complete {steps : ℕ} (beneath : Beneath lower upper)
    (enters : Enters upper path.parent.segments)
    (few : (Path.significant path.parent.segments).length ≤ steps) :
    ∃ grown, ensureDirectories lower steps path.parent = .ok grown ∧ Beneath grown upper ∧
      Enters grown path.parent.segments := by
  -- each step up drops a name, so there are steps enough to reach the root
  induction steps generalizing path with
  | zero =>
      rcases Path.parent_cases path with root | ⟨front, name, named, plain⟩
      · exact ⟨lower, ensureDirectories_root root 0, beneath, enters_root root⟩
      · have none := List.length_eq_zero_iff.mp (Nat.le_zero.mp few)
        rw [named, Path.significant_append plain] at none
        exact absurd none (by simp)
  | succ steps ih =>
      rcases Path.parent_cases path with root | ⟨front, name, named, plain⟩
      · exact ⟨lower, ensureDirectories_root root _, beneath, enters_root root⟩
      have below : path.parent.segments ≠ [""] := by
        intro same
        rw [same] at named
        have last := congrArg List.getLast? named
        rw [List.getLast?_concat] at last
        cases last
        exact absurd plain (by decide)
      rw [ensureDirectories, if_neg below]
      by_cases inside : Enters lower front
      · have direct := makeDirectory_ne_noEntry named plain inside
        split
        · contradiction
        · exact ensureDirectory_completes named plain beneath enters inside
      · -- the directory around it is missing and is made first
        have missing := makeDirectory_missing named plain beneath enters inside
        have around : Enters upper path.parent.parent.segments := by
          obtain ⟨place, leads, _⟩ := enters
          exact enters_parent_of_placeOf leads
        have shorter : (Path.significant path.parent.parent.segments).length ≤ steps := by
          rw [named, Path.significant_append plain, List.length_append, List.length_singleton] at few
          rw [Path.significant_parent, named, Path.significant_append plain, List.dropLast_concat]
          calc (Path.significant front).length
            _ ≤ front.length := Path.length_significant_le front
            _ ≤ steps := Nat.le_of_succ_le_succ few
        obtain ⟨grown, made, under, entered⟩ := ih around shorter
        rw [enters_parent, named, Path.significant_append plain, List.dropLast_concat] at entered
        obtain ⟨whole, done, result⟩ :=
          ensureDirectory_completes named plain under enters entered
        refine ⟨whole, ?_, result⟩
        rw [missing]
        dsimp only
        rw [made]
        exact done

end FileTree

namespace Site

open FileTree (Beneath Enters)

theorem save_completes {lower upper : FileTree} {path : Path} {place : Place} {front : List String}
    {name text markup : String} (beneath : Beneath lower upper)
    (split : path.segments = front ++ [name]) (isName : IsFileName name)
    (leads : upper.placeOf path = .ok place) (held : upper.held? place = some (.file text)) :
    ∃ grown, save lower path markup = .ok grown := by
  have above : Enters upper path.parent.segments := FileTree.enters_parent_of_placeOf leads
  obtain ⟨furnished, made, under, entered⟩ := FileTree.ensureDirectories_complete beneath above
    (Path.length_significant_le path.parent.segments)
  rw [FileTree.enters_parent, split, Path.significant_append isName.1, List.dropLast_concat] at entered
  obtain ⟨around, inside, directory⟩ := entered
  have reached := FileTree.follow_append_name inside directory isName.1
  rw [if_neg isName.2.1] at reached
  have same : place = around ++ [name] := by
    rw [FileTree.placeOf, split, under.persists.follow reached] at leads
    exact (Except.ok.inj leads).symm
  have free : furnished.held? (around ++ [name]) ≠ some .directory := by
    intro stands
    rw [← same] at stands
    rw [under.persists place stands] at held
    cases held
  have whole : FileTree.withoutEndSlashes (front ++ [name]) = front ++ [name] :=
    FileTree.withoutEndSlashes_append isName.1
  have plain : ¬(name = "." ∨ name = "..") := not_or.mpr ⟨isName.ne_dot, isName.2.1⟩
  have wrote : furnished.write path markup =
      .ok (furnished.put (around ++ [name]) (.file markup)) := by
    rw [FileTree.write, split, whole, FileTree.newPlace_of_enters inside directory, if_neg plain]
    simp only [bind, Except.bind, ne_eq, not_true_eq_false, if_false]
  refine ⟨furnished.put (around ++ [name]) (.file markup), ?_⟩
  rw [save, FileTree.makeDirectories, made]
  dsimp only
  rw [wrote]

end Site

end MarkupTree
