/-! Ordered fields: named values in the order in which the names were first written. -/

namespace MarkupTree

/-- Values by name, in order. -/
abbrev Fields (α : Type) := List (String × α)

namespace Fields

variable {α β : Type}

def names (fields : Fields α) : List String := fields.map Prod.fst

def find? (fields : Fields α) (name : String) : Option α := fields.lookup name

def has (fields : Fields α) (name : String) : Bool := (find? fields name).isSome

def erase (fields : Fields α) (name : String) : Fields α :=
  fields.filter fun entry => entry.1 != name

/-- A name that is already there keeps its place. -/
def insert : Fields α → String → α → Fields α
  | [], name, value => [(name, value)]
  | entry :: rest, name, value =>
      if entry.1 = name then (name, value) :: rest else entry :: insert rest name value

/-- A name written several times keeps its first place and its last value. -/
def collect : List (String × α) → Fields α
  | [] => []
  | (name, value) :: rest =>
      let later := collect rest
      (name, (find? later name).getD value) :: erase later name

def merge (earlier later : Fields α) : Fields α := collect (earlier ++ later)

def mapValues (f : α → β) (fields : Fields α) : Fields β :=
  fields.map fun entry => (entry.1, f entry.2)

def Distinct (fields : Fields α) : Prop := (names fields).Nodup

theorem find?_eq_none_iff {fields : Fields α} {name : String} :
    find? fields name = none ↔ name ∉ names fields := by
  rw [find?, List.lookup_eq_none_iff, names]
  simp only [List.mem_map, not_exists, not_and, bne_iff_ne, ne_eq]
  exact ⟨fun other entry member same => other entry member same.symm,
    fun other entry member same => other entry member same.symm⟩

theorem mem_of_find?_eq_some {fields : Fields α} {name : String} {value : α}
    (found : find? fields name = some value) : (name, value) ∈ fields := by
  obtain ⟨before, behind, rfl, _⟩ := List.lookup_eq_some_iff.mp found
  exact List.mem_append_right _ List.mem_cons_self

theorem names_erase (fields : Fields α) (name : String) :
    names (erase fields name) = (names fields).filter (· != name) := by
  rw [names, names, erase, List.filter_map]
  rfl

theorem names_mapValues (f : α → β) (fields : Fields α) :
    names (mapValues f fields) = names fields := by
  rw [names, mapValues, List.map_map]
  rfl

theorem collect_of_distinct {fields : Fields α} (distinct : Distinct fields) :
    collect fields = fields := by
  induction fields with
  | nil => rfl
  | cons entry rest ih =>
      obtain ⟨name, value⟩ := entry
      obtain ⟨fresh, others⟩ := List.nodup_cons.mp distinct
      have absent : find? rest name = none := find?_eq_none_iff.mpr fresh
      have kept : erase rest name = rest := by
        refine List.filter_eq_self.mpr ?_
        intro other member
        rw [bne_iff_ne]
        rintro rfl
        exact fresh (List.mem_map.mpr ⟨other, member, rfl⟩)
      simp only [collect, ih others, absent, kept, Option.getD_none]

theorem distinct_collect (entries : List (String × α)) : Distinct (collect entries) := by
  induction entries with
  | nil => exact List.nodup_nil
  | cons entry rest ih =>
      refine List.nodup_cons.mpr ⟨?_, ?_⟩
      · change _ ∉ names (erase (collect rest) entry.1)
        rw [names_erase]
        simp
      · change (names (erase (collect rest) entry.1)).Nodup
        rw [names_erase]
        exact List.Pairwise.filter _ ih

theorem mem_of_mem_collect {entries : List (String × α)} {entry : String × α}
    (member : entry ∈ collect entries) : entry ∈ entries := by
  induction entries generalizing entry with
  | nil => exact member
  | cons first rest ih =>
      obtain ⟨name, value⟩ := first
      rcases List.mem_cons.mp member with same | erased
      · subst same
        cases later : find? (collect rest) name with
        | none => exact List.mem_cons_self
        | some last => exact List.mem_cons_of_mem _ (ih (mem_of_find?_eq_some later))
      · exact List.mem_cons_of_mem _ (ih (List.mem_filter.mp erased).1)

end Fields

end MarkupTree
