import Mathlib
import MarkupTree.Proofs.Site.Listings
import MarkupTree.Proofs.Values.Fields

/-!
The components of a site. Each document under their directory becomes one entry, or none does, and
the first document that cannot is the one that is reported.
-/

namespace MarkupTree

namespace Site

def unit? (text : String) : Option Fragment := (Json.readFile? text).bind Fragment.ofJson?

def sources (tree : FileTree) (dir : Path) : List (Path × String) :=
  (tree.documents dir).map fun found => (dir.join ⟨found.1⟩, found.2)

/-- Each file holds a unit, and no two have one stem. -/
structure Definable (files : List (Path × String)) : Prop where
  valid : ∀ file ∈ files, unit? file.2 ≠ none
  apart : (files.map fun file => file.1.stem?).Nodup

/-- An entry has the stem of a file for its name, and what the file holds. -/
structure Defines (file : Path × String) (entry : String × Fragment) : Prop where
  named : file.1.stem? = some entry.1
  held : unit? file.2 = some entry.2

/-- Why a file cannot be one more behind others. A stem that is taken is a fault whatever the file
holds. -/
inductive Spoils (before : List (Path × String)) (file : Path × String) : CommandFault → Prop where
  | repeated {earlier : Path × String} {name : String} (member : earlier ∈ before)
      (named : earlier.1.stem? = some name) (again : file.1.stem? = some name) :
      Spoils before file (.duplicateComponent name earlier.1 file.1)
  | invalid (fresh : ∀ earlier ∈ before, earlier.1.stem? ≠ file.1.stem?)
      (unreadable : unit? file.2 = none) : Spoils before file (.invalidJson file.1)

variable {before files rest : List (Path × String)} {file earlier : Path × String}
  {found : List Definition} {name : String} {fault : CommandFault}

namespace Definable

theorem nil : Definable [] := ⟨by simp, List.nodup_nil⟩

theorem concat (definable : Definable before)
    (fresh : ∀ earlier ∈ before, earlier.1.stem? ≠ file.1.stem?) (valid : unit? file.2 ≠ none) :
    Definable (before ++ [file]) where
  valid other member := by
    rcases List.mem_append.mp member with ahead | same
    · exact definable.valid other ahead
    · rwa [List.mem_singleton.mp same]
  apart := by
    rw [List.map_append, List.map_singleton]
    refine List.nodup_append.mpr ⟨definable.apart, List.nodup_singleton _, ?_⟩
    intro stem member own same
    obtain ⟨earlier, ahead, rfl⟩ := List.mem_map.mp member
    rw [List.mem_singleton.mp same]
    exact fresh earlier ahead

theorem fresh (definable : Definable (before ++ file :: rest)) :
    ∀ earlier ∈ before, earlier.1.stem? ≠ file.1.stem? := by
  intro earlier ahead
  have apart := definable.apart
  rw [List.map_append, List.map_cons] at apart
  exact (List.nodup_append.mp apart).2.2 _ (List.mem_map_of_mem ahead) _ List.mem_cons_self

theorem concat_or_spoils (definable : Definable before) (named : file.1.stem? = some name) :
    Definable (before ++ [file]) ∨ ∃ fault, Spoils before file fault := by
  by_cases taken : ∃ earlier ∈ before, earlier.1.stem? = file.1.stem?
  · obtain ⟨earlier, ahead, same⟩ := taken
    exact .inr ⟨_, .repeated ahead (same.trans named) named⟩
  · have fresh : ∀ earlier ∈ before, earlier.1.stem? ≠ file.1.stem? :=
      fun earlier ahead same => taken ⟨earlier, ahead, same⟩
    cases held : unit? file.2 with
    | none => exact .inr ⟨_, .invalid fresh held⟩
    | some unit => exact .inl (definable.concat fresh (by simp [held]))

end Definable

theorem exists_spoils (stems : ∀ file ∈ files, ∃ name, file.1.stem? = some name)
    (spoiled : ¬Definable files) : ∃ before file behind fault,
      files = before ++ file :: behind ∧ Definable before ∧ Spoils before file fault := by
  induction files using List.reverseRecOn with
  | nil => exact absurd .nil spoiled
  | append_singleton front last ih =>
      by_cases definable : Definable front
      · obtain ⟨name, named⟩ := stems last (by simp)
        obtain ⟨fault, spoils⟩ := (definable.concat_or_spoils named).resolve_left spoiled
        exact ⟨front, last, [], fault, rfl, definable, spoils⟩
      · have ahead : ∀ file ∈ front, ∃ name, file.1.stem? = some name :=
          fun file member => stems file (List.mem_append_left _ member)
        obtain ⟨before, file, behind, fault, rfl, rest⟩ := ih ahead definable
        exact ⟨before, file, behind ++ [last], fault, by simp, rest⟩

/-! Definitions that were read stand for the files that are behind them, one for each. -/

structure ReadFrom (file : Path × String) (definition : Definition) : Prop where
  path : definition.path = file.1
  defines : Defines file (definition.name, definition.fragment)

theorem find?_definition (read : List.Forall₂ ReadFrom before found) (name : String) :
    (found.find? fun definition => definition.name = name).map Definition.path =
      (before.find? fun file => file.1.stem? = some name).map Prod.fst := by
  induction read with
  | nil => rfl
  | cons first others ih =>
      rw [List.find?_cons, List.find?_cons, first.defines.named]
      dsimp only
      simp only [Option.some.injEq]
      split
      · exact congrArg some first.path
      · exact ih

theorem find?_definition_eq_none (read : List.Forall₂ ReadFrom before found)
    (fresh : ∀ earlier ∈ before, earlier.1.stem? ≠ some name) :
    (found.find? fun definition => definition.name = name) = none := by
  have absent : (before.find? fun file => file.1.stem? = some name) = none :=
    List.find?_eq_none.mpr fun earlier ahead => by simpa using fresh earlier ahead
  have same := find?_definition read name
  rw [absent] at same
  exact Option.map_eq_none_iff.mp same

theorem exists_find?_definition (read : List.Forall₂ ReadFrom before found)
    (definable : Definable before) (ahead : earlier ∈ before)
    (named : earlier.1.stem? = some name) : ∃ first,
      (found.find? fun definition => definition.name = name) = some first ∧
        first.path = earlier.1 := by
  have same := find?_definition read name
  cases taken : before.find? fun file => file.1.stem? = some name with
  | none => exact absurd (decide_eq_true named) (List.find?_eq_none.mp taken earlier ahead)
  | some other =>
      have own : other.1.stem? = some name := by simpa using List.find?_some taken
      have equal : other = earlier := List.inj_on_of_nodup_map definable.apart
        (List.mem_of_find?_eq_some taken) ahead (own.trans named.symm)
      rw [taken, equal] at same
      exact Option.map_eq_some_iff.mp same

theorem define_defines {unit : Fragment} (read : List.Forall₂ ReadFrom before found)
    (fresh : ∀ earlier ∈ before, earlier.1.stem? ≠ file.1.stem?)
    (defines : Defines file (name, unit)) :
    define found (file :: rest) = define (found ++ [⟨name, file.1, unit⟩]) rest := by
  have free := find?_definition_eq_none read (by rwa [defines.named] at fresh)
  have held : (Json.readFile? file.2).bind Fragment.ofJson? = some unit := defines.held
  rw [define, defines.named]
  simp only [Option.getD_some, free, document, held]
  rfl

theorem define_spoils (read : List.Forall₂ ReadFrom before found) (definable : Definable before)
    (stem : ∃ name, file.1.stem? = some name) (spoils : Spoils before file fault) :
    define found (file :: rest) = .error fault := by
  cases spoils with
  | repeated ahead named again =>
      obtain ⟨first, taken, own⟩ := exists_find?_definition read definable ahead named
      rw [define, again]
      simp only [Option.getD_some, taken, own]
  | invalid fresh unreadable =>
      obtain ⟨name, named⟩ := stem
      have free := find?_definition_eq_none read (by rwa [named] at fresh)
      have invalid : (Json.readFile? file.2).bind Fragment.ofJson? = none := unreadable
      rw [define, named]
      simp only [Option.getD_some, free, document, invalid]
      rfl

/-- Definable files are read to their end, and what is behind them is read from there on. -/
theorem define_definable (stems : ∀ file ∈ files, ∃ name, file.1.stem? = some name)
    (read : List.Forall₂ ReadFrom before found) (definable : Definable (before ++ files)) :
    ∃ fresh, List.Forall₂ ReadFrom files fresh ∧
      define found (files ++ rest) = define (found ++ fresh) rest := by
  induction files generalizing before found with
  | nil => exact ⟨[], .nil, by simp⟩
  | cons file later ih =>
      obtain ⟨name, named⟩ := stems file List.mem_cons_self
      have valid := definable.valid file (by simp)
      obtain ⟨unit, held⟩ := Option.ne_none_iff_exists'.mp valid
      have own : ReadFrom file ⟨name, file.1, unit⟩ := ⟨rfl, named, held⟩
      have grown : List.Forall₂ ReadFrom (before ++ [file]) (found ++ [⟨name, file.1, unit⟩]) :=
        List.rel_append read (.cons own .nil)
      obtain ⟨fresh, others, run⟩ := ih (fun other member => stems other (.tail _ member)) grown
        (by rwa [List.append_assoc, List.singleton_append])
      refine ⟨_ :: fresh, .cons own others, ?_⟩
      rw [List.cons_append, define_defines read definable.fresh own.defines, run,
        List.append_assoc, List.singleton_append]

/-! The registry has one entry for each document under its directory. -/

section

variable {tree : FileTree} {dir : Path} {place : Place} {registry : Registry}

theorem loadRegistry_eq : loadRegistry tree dir = (define [] (sources tree dir)).map fun read =>
    read.map fun definition => (definition.name, definition.fragment) := by
  change (define [] (sources tree dir) >>= _) = _
  cases define [] (sources tree dir) <;> rfl

theorem stems_of_defines (defines : List.Forall₂ Defines files registry) :
    (files.map fun file => file.1.stem?) = (Fields.names registry).map some := by
  induction defines with
  | nil => rfl
  | cons first _ ih =>
      rw [List.map_cons, first.named, ih]
      rfl

theorem distinct_of_defines (definable : Definable files)
    (defines : List.Forall₂ Defines files registry) : Fields.Distinct registry := by
  have apart := definable.apart
  rw [stems_of_defines defines] at apart
  exact apart.of_map some

theorem exists_find?_of_defines (definable : Definable files)
    (defines : List.Forall₂ Defines files registry) (member : file ∈ files) :
    ∃ name unit, Defines file (name, unit) ∧ Fields.find? registry name = some unit := by
  have distinct := distinct_of_defines definable defines
  obtain ⟨index, inside, rfl⟩ := List.mem_iff_getElem.mp member
  have covered : index < registry.length := defines.length_eq ▸ inside
  exact ⟨_, _, defines.get inside covered,
    (Fields.find?_eq_some_iff distinct).mpr (List.getElem_mem covered)⟩

theorem stem_of_sources (leads : tree.placeOf dir = .ok place) :
    ∀ file ∈ sources tree dir, ∃ name, file.1.stem? = some name := by
  intro file member
  obtain ⟨⟨way, text⟩, listed, rfl⟩ := List.mem_map.mp member
  exact Path.exists_stem? ((FileTree.mem_documents leads).mp listed).2

section

variable (stems : ∀ file ∈ sources tree dir, ∃ name, file.1.stem? = some name)

include stems

theorem exists_loadRegistry (definable : Definable (sources tree dir)) : ∃ registry,
    loadRegistry tree dir = .ok registry ∧ List.Forall₂ Defines (sources tree dir) registry := by
  obtain ⟨fresh, read, run⟩ : ∃ fresh, List.Forall₂ ReadFrom (sources tree dir) fresh ∧
      define [] (sources tree dir ++ []) = define ([] ++ fresh) [] :=
    define_definable stems .nil definable
  rw [List.append_nil, List.nil_append] at run
  refine ⟨fresh.map fun definition => (definition.name, definition.fragment), ?_, ?_⟩
  · rw [loadRegistry_eq, run]
    rfl
  · exact List.forall₂_map_right_iff.mpr (read.imp fun _ _ own => own.defines)

theorem loadRegistry_eq_error (definable : Definable before) (spoils : Spoils before file fault)
    (split : sources tree dir = before ++ file :: rest) :
    loadRegistry tree dir = .error fault := by
  rw [split] at stems
  obtain ⟨fresh, read, run⟩ : ∃ fresh, List.Forall₂ ReadFrom before fresh ∧
      define [] (before ++ file :: rest) = define ([] ++ fresh) (file :: rest) :=
    define_definable (fun other member => stems other (List.mem_append_left _ member)) .nil
      definable
  have last : define fresh (file :: rest) = .error fault :=
    define_spoils read definable (stems file (by simp)) spoils
  rw [loadRegistry_eq, split, run, List.nil_append, last]
  rfl

theorem definable_of_loadRegistry (loaded : loadRegistry tree dir = .ok registry) :
    Definable (sources tree dir) := by
  by_contra spoiled
  obtain ⟨before, file, behind, fault, split, definable, spoils⟩ := exists_spoils stems spoiled
  rw [loadRegistry_eq_error stems definable spoils split] at loaded
  cases loaded

theorem defines_of_loadRegistry (loaded : loadRegistry tree dir = .ok registry) :
    List.Forall₂ Defines (sources tree dir) registry := by
  obtain ⟨other, again, defines⟩ :=
    exists_loadRegistry stems (definable_of_loadRegistry stems loaded)
  rw [loaded] at again
  cases again
  exact defines

theorem spoils_of_loadRegistry (failed : loadRegistry tree dir = .error fault) :
    ∃ before file behind, sources tree dir = before ++ file :: behind ∧ Definable before ∧
      Spoils before file fault := by
  have spoiled : ¬Definable (sources tree dir) := by
    intro definable
    obtain ⟨registry, loaded, _⟩ := exists_loadRegistry stems definable
    rw [loaded] at failed
    cases failed
  obtain ⟨before, file, behind, first, split, definable, spoils⟩ := exists_spoils stems spoiled
  rw [loadRegistry_eq_error stems definable spoils split] at failed
  cases failed
  exact ⟨before, file, behind, split, definable, spoils⟩

end

/-- The components under a directory are loaded without loss: all documents of its one listing are
there, each by its stem, or the first one that cannot be is reported. -/
theorem loadRegistry_without_loss (formed : tree.WellFormed) (leads : tree.placeOf dir = .ok place)
    (directory : tree.held? place = some .directory) :
    (∀ files, tree.IsListing place files ↔ files = tree.documents dir) ∧
    ((∃ registry, loadRegistry tree dir = .ok registry) ↔ Definable (sources tree dir)) ∧
    (∀ registry, loadRegistry tree dir = .ok registry →
      List.Forall₂ Defines (sources tree dir) registry ∧ Fields.Distinct registry ∧
      ∀ file ∈ sources tree dir, ∃ name unit,
        Defines file (name, unit) ∧ Fields.find? registry name = some unit) ∧
    ∀ fault, loadRegistry tree dir = .error fault ↔ ∃ before file behind,
      sources tree dir = before ++ file :: behind ∧ Definable before ∧ Spoils before file fault := by
  have stems := stem_of_sources leads
  refine ⟨fun files => FileTree.isListing_iff formed leads directory, ⟨?_, fun definable => ?_⟩,
    ?_, fun fault => ⟨fun failed => spoils_of_loadRegistry stems failed, ?_⟩⟩
  · rintro ⟨registry, loaded⟩
    exact definable_of_loadRegistry stems loaded
  · obtain ⟨registry, loaded, _⟩ := exists_loadRegistry stems definable
    exact ⟨registry, loaded⟩
  · intro registry loaded
    have definable := definable_of_loadRegistry stems loaded
    have defines := defines_of_loadRegistry stems loaded
    exact ⟨defines, distinct_of_defines definable defines, fun file member =>
      exists_find?_of_defines definable defines member⟩
  · rintro ⟨before, file, behind, split, definable, spoils⟩
    exact loadRegistry_eq_error stems definable spoils split

end

def elementText (name : String) : String := "\x7b\"element\":\"" ++ name ++ "\"\x7d"

def cabinet : FileTree :=
  [(["cabinet"], .directory), (["cabinet", "Card.v2.json"], .file (elementText "article")),
    (["cabinet", "forms"], .directory),
    (["cabinet", "forms", "Card.json"], .file (elementText "form")),
    (["cabinet", "forms", "notes.txt"], .file "ignored")]

def crowdedCabinet : FileTree :=
  cabinet ++ [(["cabinet", "late"], .directory), (["cabinet", "late", "Card.json"], .file "[")]

def cabinetDir : Path := ⟨[".", "cabinet"]⟩

def filed : List (Path × String) :=
  [(⟨[".", "cabinet", "Card.v2.json"]⟩, elementText "article"),
    (⟨[".", "cabinet", "forms", "Card.json"]⟩, elementText "form")]

theorem definable_filed : Definable filed where
  valid := by
    have first : unit? (elementText "article") = some (.one (.ofElement "article")) := by cbv
    have second : unit? (elementText "form") = some (.one (.ofElement "form")) := by cbv
    simp [filed, first, second]
  apart := by decide

theorem leads_cabinet : cabinet.placeOf cabinetDir = .ok ["cabinet"] := by decide

theorem leads_crowdedCabinet : crowdedCabinet.placeOf cabinetDir = .ok ["cabinet"] := by decide

theorem sources_cabinet : sources cabinet cabinetDir = filed := by
  rw [sources, FileTree.documents_of_ordered leads_cabinet (by decide)]
  rfl

theorem sources_crowdedCabinet : sources crowdedCabinet cabinetDir =
    filed ++ [(⟨[".", "cabinet", "late", "Card.json"]⟩, "[")] := by
  rw [sources, FileTree.documents_of_ordered leads_crowdedCabinet (by decide)]
  rfl

theorem cabinet_loaded :
    cabinet.WellFormed ∧ cabinet.placeOf cabinetDir = .ok ["cabinet"] ∧
    cabinet.held? ["cabinet"] = some .directory ∧
    (∃ registry, loadRegistry cabinet cabinetDir = .ok registry) ∧
    crowdedCabinet.WellFormed ∧ crowdedCabinet.placeOf cabinetDir = .ok ["cabinet"] ∧
    crowdedCabinet.held? ["cabinet"] = some .directory ∧
    loadRegistry crowdedCabinet cabinetDir = .error (.duplicateComponent "Card"
      ⟨[".", "cabinet", "forms", "Card.json"]⟩ ⟨[".", "cabinet", "late", "Card.json"]⟩) := by
  have formed : cabinet.WellFormed := ⟨by decide, by decide, by decide⟩
  have crowded : crowdedCabinet.WellFormed := ⟨by decide, by decide, by decide⟩
  refine ⟨formed, leads_cabinet, by decide, ?_, crowded, leads_crowdedCabinet, by decide, ?_⟩
  · refine (loadRegistry_without_loss formed leads_cabinet (by decide)).2.1.mpr ?_
    rw [sources_cabinet]
    exact definable_filed
  · refine ((loadRegistry_without_loss crowded leads_crowdedCabinet (by decide)).2.2.2 _).mpr ?_
    refine ⟨filed, _, [], sources_crowdedCabinet, definable_filed, ?_⟩
    exact .repeated (List.mem_cons_of_mem _ List.mem_cons_self) (by decide) (by decide)

end Site

end MarkupTree
