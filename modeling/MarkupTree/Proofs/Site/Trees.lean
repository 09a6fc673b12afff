import MarkupTree.Proofs.Site.Paths

/-!
What directories and files do to a tree. A new directory takes a place where nothing stood, a file
takes one place that is no directory, and all else stays: ways that lead somewhere lead there still.
-/

namespace MarkupTree

namespace FileTree

variable {tree grown later : FileTree} {place other here : Place} {entry : Entry} {path : Path}

theorem lookup_cons_of_ne (different : other ≠ place) (rest : FileTree) :
    List.lookup other ((place, entry) :: rest) = rest.lookup other := by
  rw [List.lookup_cons, beq_eq_false_iff_ne.mpr different]

theorem lookup_put : (put tree place entry).lookup other =
    if other = place then some entry else tree.lookup other := by
  induction tree with
  | nil =>
      by_cases same : other = place
      · simp [put, same]
      · rw [put, lookup_cons_of_ne same, if_neg same]
  | cons first rest ih =>
      obtain ⟨own, held⟩ := first
      by_cases replaced : own = place
      · subst replaced
        by_cases same : other = own
        · simp [put, same]
        · rw [put, if_pos rfl, lookup_cons_of_ne same, lookup_cons_of_ne same, if_neg same]
      · rw [put, if_neg replaced]
        by_cases found : other = own
        · simp [found, replaced]
        · rw [lookup_cons_of_ne found, lookup_cons_of_ne found, ih]

@[simp] theorem held?_nil (tree : FileTree) : held? tree [] = some .directory := if_pos rfl

theorem held?_put (inside : place ≠ []) :
    held? (put tree place entry) other = if other = place then some entry else held? tree other := by
  by_cases root : other = []
  · simp [held?, root, inside.symm]
  · simp [held?, root, lookup_put]

def Persists (tree grown : FileTree) : Prop :=
  ∀ place, held? tree place = some .directory → held? grown place = some .directory

theorem Persists.trans (first : Persists tree grown) (second : Persists grown later) :
    Persists tree later := fun place held => second place (first place held)

theorem directoryAt_eq_ok {directory : Place} :
    directoryAt tree place = .ok directory ↔ held? tree place = some .directory ∧ directory = place := by
  unfold directoryAt
  split
  · rename_i held
    simp [held, eq_comm]
  · rename_i text held
    simp [held]
  · rename_i held
    simp [held]

theorem follow_cons {segment : String} {rest : List String} {target : Place} :
    follow tree here (segment :: rest) = .ok target ↔ held? tree here = some .directory ∧
      follow tree (if Path.isVoid segment then here else if segment = ".." then here.dropLast
        else here ++ [segment]) rest = .ok target := by
  rw [follow]
  cases stands : directoryAt tree here with
  | error fault =>
      have none : held? tree here ≠ some .directory := by
        intro held
        rw [directoryAt_eq_ok.mpr ⟨held, rfl⟩] at stands
        cases stands
      simp [bind, Except.bind, none]
  | ok directory =>
      obtain ⟨held, rfl⟩ := directoryAt_eq_ok.mp stands
      simp only [bind, Except.bind, held, true_and]
      split
      · rfl
      · split <;> rfl

theorem follow_append {segments others : List String} {target : Place} :
    follow tree here (segments ++ others) = .ok target ↔
      ∃ middle, follow tree here segments = .ok middle ∧ follow tree middle others = .ok target := by
  induction segments generalizing here with
  | nil => simp [follow]
  | cons segment rest ih =>
      simp only [List.cons_append, follow_cons, ih]
      constructor
      · rintro ⟨held, middle, first, second⟩
        exact ⟨middle, ⟨held, first⟩, second⟩
      · rintro ⟨middle, ⟨held, first⟩, second⟩
        exact ⟨held, middle, first, second⟩

theorem Persists.follow (persists : Persists tree grown) {segments : List String}
    {here target : Place} (leads : follow tree here segments = .ok target) :
    FileTree.follow grown here segments = .ok target := by
  induction segments generalizing here with
  | nil => exact leads
  | cons segment rest ih =>
      obtain ⟨held, further⟩ := follow_cons.mp leads
      exact follow_cons.mpr ⟨persists here held, ih further⟩

theorem Persists.placeOf (persists : Persists tree grown) (leads : placeOf tree path = .ok place) :
    FileTree.placeOf grown path = .ok place := persists.follow leads

theorem eq_append_of_follow {names : List String} (plain : ∀ name ∈ names, IsFileName name)
    {target : Place} (leads : follow tree here names = .ok target) : target = here ++ names := by
  induction names generalizing here with
  | nil =>
      cases leads
      exact (List.append_nil _).symm
  | cons name rest ih =>
      obtain ⟨own, others⟩ := List.forall_mem_cons.mp plain
      obtain ⟨_, further⟩ := follow_cons.mp leads
      rw [if_neg (by simp [own.1]), if_neg own.2.1] at further
      rw [ih others further, List.append_assoc]
      rfl

theorem follow_names {names : List String} (plain : ∀ name ∈ names, IsFileName name)
    (within : ∀ front, front ≠ names → front <+: names → held? tree (here ++ front) = some .directory) :
    follow tree here names = .ok (here ++ names) := by
  induction names generalizing here with
  | nil => simp [follow]
  | cons name rest ih =>
      obtain ⟨own, others⟩ := List.forall_mem_cons.mp plain
      have top : held? tree here = some .directory := by
        simpa using within [] (List.cons_ne_nil _ _).symm List.nil_prefix
      refine follow_cons.mpr ⟨top, ?_⟩
      rw [if_neg (by simp [own.1]), if_neg own.2.1]
      have further := @ih (here ++ [name]) others fun front part shorter => by
        have longer := within (name :: front) (by simpa using part) (by simpa using shorter)
        simpa using longer
      simpa using further

theorem follow_lead (leads : placeOf tree path = .ok place) :
    follow tree [] path.lead = .ok place := by
  unfold placeOf at leads
  unfold Path.lead
  split
  · rename_i here
    rw [here] at leads
    exact leads
  · split
    · rename_i ended
      obtain ⟨front, split⟩ := List.getLast?_eq_some_iff.mp ended
      rw [split] at leads ⊢
      obtain ⟨middle, first, last⟩ := follow_append.mp leads
      obtain ⟨_, stays⟩ := follow_cons.mp last
      rw [List.dropLast_concat, first]
      exact stays
    · exact leads

def Kept (tree grown : FileTree) (place : Place) : Prop :=
  held? grown place = held? tree place ∨
    held? tree place = none ∧ held? grown place = some .directory

namespace Kept

theorem trans (first : Kept tree grown place) (second : Kept grown later place) :
    Kept tree later place := by
  rcases second with same | ⟨missing, made⟩
  · rw [Kept, same]
    exact first
  · rcases first with before | ⟨_, directory⟩
    · exact .inr ⟨before ▸ missing, made⟩
    · rw [directory] at missing
      cases missing

theorem held (kept : Kept tree grown place) (stands : held? tree place = some entry) :
    held? grown place = some entry := by
  rcases kept with same | ⟨missing, _⟩
  · exact same.trans stands
  · rw [stands] at missing
    cases missing

theorem file_iff (kept : Kept tree grown place) (text : String) :
    held? grown place = some (.file text) ↔ held? tree place = some (.file text) := by
  rcases kept with same | ⟨missing, made⟩
  · rw [same]
  · rw [missing, made]
    simp

end Kept

def Furnished (tree grown : FileTree) : Prop := ∀ place, Kept tree grown place

theorem Furnished.refl (tree : FileTree) : Furnished tree tree := fun _ => .inl rfl

theorem Furnished.trans (first : Furnished tree grown) (second : Furnished grown later) :
    Furnished tree later := fun place => (first place).trans (second place)

theorem newPlace_eq_ok {segments : List String} {taken : IoFault}
    (found : newPlace tree segments taken = .ok place) :
    ∃ front name, segments = front ++ [name] ∧ name ≠ "." ∧ name ≠ ".." ∧
      ∃ above, follow tree [] front = .ok above ∧ held? tree above = some .directory ∧
        place = above ++ [name] := by
  unfold newPlace at found
  cases leads : follow tree [] segments.dropLast with
  | error fault => simp [leads, bind, Except.bind] at found
  | ok above =>
      cases stands : directoryAt tree above with
      | error fault => simp [leads, stands, bind, Except.bind] at found
      | ok directory =>
          obtain ⟨held, rfl⟩ := directoryAt_eq_ok.mp stands
          simp only [leads, stands, bind, Except.bind] at found
          split at found
          · rename_i name last
            split at found
            · cases found
            · rename_i plain
              obtain ⟨front, rfl⟩ := List.getLast?_eq_some_iff.mp last
              rw [List.dropLast_concat] at leads
              cases found
              exact ⟨front, name, rfl, fun dot => plain (.inl dot), fun dots => plain (.inr dots),
                _, leads, held, rfl⟩
          · cases found

theorem makeDirectory_furnishes (made : makeDirectory tree path = .ok grown) :
    Furnished tree grown := by
  unfold makeDirectory at made
  cases found : newPlace tree (withoutEndSlashes path.segments) .fileExists with
  | error fault => simp [found, bind, Except.bind] at made
  | ok place =>
      simp only [found, bind, Except.bind] at made
      split at made
      · cases made
      · rename_i missing
        cases made
        obtain ⟨front, name, _, _, _, above, _, _, rfl⟩ := newPlace_eq_ok found
        intro other
        by_cases same : other = above ++ [name]
        · subst same
          exact .inr ⟨missing, by rw [held?_put (by simp), if_pos rfl]⟩
        · exact .inl (by rw [held?_put (by simp), if_neg same])

theorem ensureDirectory_furnishes (made : ensureDirectory tree path = .ok grown) :
    Furnished tree grown := by
  unfold ensureDirectory at made
  split at made
  · rename_i own
    cases made
    exact makeDirectory_furnishes own
  · split at made
    · cases made
      exact .refl tree
    · cases made

theorem ensureDirectories_furnish {steps : Nat} (made : ensureDirectories tree steps path = .ok grown) :
    Furnished tree grown := by
  induction steps generalizing path grown with
  | zero => exact ensureDirectory_furnishes made
  | succ steps ih =>
      unfold ensureDirectories at made
      split at made
      · cases made
        exact .refl tree
      · split at made
        · cases above : ensureDirectories tree steps path.parent with
          | error fault => simp [above, bind, Except.bind] at made
          | ok middle =>
              simp only [above, bind, Except.bind] at made
              exact (ih above).trans (ensureDirectory_furnishes made)
        · exact ensureDirectory_furnishes made

theorem ne_empty_of_withoutEndSlashes {segments front : List String} {name : String}
    (split : withoutEndSlashes segments = front ++ [name]) : name ≠ "" := by
  have reversed : segments.reverse.dropWhile (· = "") = name :: front.reverse := by
    rw [← List.reverse_inj, List.reverse_cons, List.reverse_reverse]
    exact split
  have stops := List.head?_dropWhile_not (fun segment : String => decide (segment = "")) segments.reverse
  rw [reversed] at stops
  simpa using stops

theorem write_eq_ok {text : String} (written : write tree path text = .ok grown) :
    ∃ place, place ≠ [] ∧ placeOf tree path = .ok place ∧ held? tree place ≠ some .directory ∧
      grown = put tree place (.file text) := by
  unfold write at written
  cases found : newPlace tree (withoutEndSlashes path.segments) .isADirectory with
  | error fault => simp [found, bind, Except.bind] at written
  | ok place =>
      simp only [found, bind, Except.bind] at written
      split at written
      · cases written
      · rename_i whole
        obtain ⟨front, name, split, dot, dots, above, leads, held, rfl⟩ := newPlace_eq_ok found
        have visible : Path.isVoid name = false := by
          simp [Path.isVoid, dot, ne_empty_of_withoutEndSlashes split]
        have segments : path.segments = front ++ [name] := (Decidable.not_not.mp whole).symm.trans split
        have found : placeOf tree path = .ok (above ++ [name]) := by
          rw [placeOf, segments]
          refine follow_append.mpr ⟨above, leads, follow_cons.mpr ⟨held, ?_⟩⟩
          rw [visible, if_neg Bool.false_ne_true, if_neg dots, follow]
        refine ⟨above ++ [name], by simp, found, ?_⟩
        split at written
        · cases written
        · rename_i free
          exact ⟨free, (Except.ok.inj written).symm⟩

structure Receives (tree grown : FileTree) (place : Place) (text : String) : Prop where
  free : held? tree place ≠ some .directory
  held : held? grown place = some (.file text)
  others : ∀ other, other ≠ place → Kept tree grown other

theorem receives_put {text : String} (inside : place ≠ []) (free : held? tree place ≠ some .directory) :
    Receives tree (put tree place (.file text)) place text where
  free := free
  held := by rw [held?_put inside, if_pos rfl]
  others other different := .inl (by rw [held?_put inside, if_neg different])

theorem Receives.after {text : String} (furnished : Furnished tree grown)
    (receives : Receives grown later place text) : Receives tree later place text where
  free directory := receives.free ((furnished place).held directory)
  held := receives.held
  others other different := (furnished other).trans (receives.others other different)

theorem Receives.persists {text : String} (receives : Receives tree grown place text) :
    Persists tree grown := by
  intro other directory
  have different : other ≠ place := by
    rintro rfl
    exact receives.free directory
  exact (receives.others other different).held directory

end FileTree

end MarkupTree
