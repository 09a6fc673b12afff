import MarkupTree.Fields
import Mathlib.Data.List.Basic

/-!
What collecting keeps of entries: the first place and the last value of each name. An inserted name
keeps its place, too.
-/

namespace MarkupTree

theorem lookup_filter {κ α : Type} [BEq κ] [LawfulBEq κ] (keep : κ → Bool)
    (entries : List (κ × α)) (key : κ) :
    (entries.filter fun entry => keep entry.1).lookup key =
      if keep key then entries.lookup key else none := by
  induction entries with
  | nil => simp
  | cons entry rest ih =>
      obtain ⟨own, value⟩ := entry
      rw [List.lookup_cons]
      cases same : key == own with
      | true =>
          have key_eq : key = own := eq_of_beq same
          subst key_eq
          by_cases kept : keep key <;> simp [kept, ih]
      | false => by_cases kept : keep own <;> simp [kept, ih, List.lookup_cons, same]

namespace Fields

variable {α : Type} {entries : List (String × α)} {name : String} {value : α}

def IsLast (entries : List (String × α)) (name : String) (value : α) : Prop :=
  ∃ before behind, entries = before ++ (name, value) :: behind ∧ name ∉ names behind

theorem isLast_cons {entry : String × α} : IsLast (entry :: entries) name value ↔
    entry = (name, value) ∧ name ∉ names entries ∨ IsLast entries name value := by
  constructor
  · rintro ⟨_ | ⟨first, before⟩, behind, same, last⟩
    · obtain ⟨rfl, rfl⟩ := List.cons.inj same
      exact .inl ⟨rfl, last⟩
    · obtain ⟨rfl, rfl⟩ := List.cons.inj same
      exact .inr ⟨before, behind, rfl, last⟩
  · rintro (⟨rfl, last⟩ | ⟨before, behind, rfl, last⟩)
    · exact ⟨[], entries, rfl, last⟩
    · exact ⟨entry :: before, behind, rfl, last⟩

theorem filter_eraseDups (p : String → Bool) :
    ∀ words : List String, words.eraseDups.filter p = (words.filter p).eraseDups
  | [] => rfl
  | word :: rest => by
      have shorter : (rest.filter fun other => !other == word).length < rest.length + 1 :=
        Nat.lt_succ_of_le (List.length_filter_le _ _)
      rw [List.eraseDups_cons]
      by_cases kept : p word
      · rw [List.filter_cons_of_pos kept, List.filter_cons_of_pos kept, List.eraseDups_cons,
          filter_eraseDups p, List.filter_filter, List.filter_filter]
        simp only [Bool.and_comm]
      · rw [List.filter_cons_of_neg kept, List.filter_cons_of_neg kept, filter_eraseDups p,
          List.filter_filter]
        congr 1
        refine List.filter_congr fun other _ => ?_
        by_cases same : other = word
        · simp [same, kept]
        · simp [same]
termination_by words => words.length

theorem names_collect (entries : List (String × α)) :
    names (collect entries) = (names entries).eraseDups := by
  induction entries with
  | nil => rfl
  | cons entry rest ih =>
      change entry.1 :: names (erase (collect rest) entry.1) = (entry.1 :: names rest).eraseDups
      rw [names_erase, ih, List.eraseDups_cons, filter_eraseDups]
      rfl

theorem find?_mapValues {β : Type} (f : α → β) (fields : Fields α) (name : String) :
    find? (mapValues f fields) name = (find? fields name).map f := by
  induction fields with
  | nil => rfl
  | cons entry rest ih =>
      obtain ⟨own, value⟩ := entry
      simp only [mapValues, find?, List.map_cons, List.lookup_cons] at ih ⊢
      cases name == own with
      | true => rfl
      | false => exact ih

theorem collect_mapValues {β : Type} (f : α → β) (entries : List (String × α)) :
    collect (mapValues f entries) = mapValues f (collect entries) := by
  induction entries with
  | nil => rfl
  | cons entry rest ih =>
      obtain ⟨name, value⟩ := entry
      have behind : erase (mapValues f (collect rest)) name =
          mapValues f (erase (collect rest) name) := List.filter_map
      change (name, (find? (collect (mapValues f rest)) name).getD (f value)) ::
        erase (collect (mapValues f rest)) name = mapValues f ((name, _) :: _)
      rw [ih, find?_mapValues, behind]
      cases find? (collect rest) name <;> rfl

theorem find?_eq_some_iff {fields : Fields α} (distinct : Distinct fields) :
    find? fields name = some value ↔ (name, value) ∈ fields := by
  refine ⟨mem_of_find?_eq_some, fun member => ?_⟩
  induction fields with
  | nil => cases member
  | cons entry rest ih =>
      obtain ⟨fresh, others⟩ := List.nodup_cons.mp distinct
      rcases List.mem_cons.mp member with rfl | member
      · exact List.lookup_cons_self
      · have other : name ≠ entry.1 := by
          rintro rfl
          exact fresh (List.mem_map.mpr ⟨_, member, rfl⟩)
        rw [find?, List.lookup_cons, beq_false_of_ne other]
        exact ih others member

theorem find?_perm {fields others : Fields α} (distinct : Distinct fields)
    (perm : fields.Perm others) (name : String) : find? others name = find? fields name := by
  have unique : Distinct others := (perm.map Prod.fst).nodup_iff.mp distinct
  apply Option.ext
  intro value
  rw [find?_eq_some_iff unique, find?_eq_some_iff distinct, perm.mem_iff]

theorem mem_collect_iff : (name, value) ∈ collect entries ↔ IsLast entries name value := by
  induction entries with
  | nil => simp [collect, IsLast]
  | cons entry rest ih =>
      obtain ⟨first, own⟩ := entry
      have among : first ∈ names (collect rest) ↔ first ∈ names rest := by
        rw [names_collect, List.mem_eraseDups]
      have others : (name, value) ∈ erase (collect rest) first ↔
          (name, value) ∈ collect rest ∧ name ≠ first := by
        rw [erase, List.mem_filter, bne_iff_ne]
      rw [isLast_cons, ← ih, collect, List.mem_cons, others, Prod.mk.injEq, Prod.mk.injEq]
      by_cases same : name = first
      · subst same
        cases later : find? (collect rest) name with
        | none =>
            have absent := find?_eq_none_iff.mp later
            have unlisted : (name, value) ∉ collect rest := fun member =>
              absent (List.mem_map.mpr ⟨_, member, rfl⟩)
            simp [← among, absent, unlisted, eq_comm]
        | some last =>
            have held := mem_of_find?_eq_some later
            have listed : name ∈ names (collect rest) := List.mem_map.mpr ⟨_, held, rfl⟩
            rw [← find?_eq_some_iff (distinct_collect rest), later]
            simp [← among, listed, eq_comm]
      · simp [same, Ne.symm same]

theorem find?_erase_of_ne {other : String} (differ : other ≠ name) (fields : Fields α) :
    find? (erase fields name) other = find? fields other := by
  rw [find?, erase, lookup_filter (· != name), if_pos (bne_iff_ne.mpr differ), find?]

theorem find?_collect (entries : List (String × α)) (name : String) :
    find? (collect entries) name =
      ((entries.filter fun entry => entry.1 == name).getLast?).map Prod.snd := by
  induction entries with
  | nil => rfl
  | cons entry rest ih =>
      by_cases same : entry.1 = name
      · rw [List.filter_cons_of_pos (by simp [same]), List.getLast?_cons, Option.map_some, collect,
          find?, List.lookup_cons, same, beq_self_eq_true, ih]
        cases (rest.filter fun entry => entry.1 == name).getLast? <;> rfl
      · rw [List.filter_cons_of_neg (by simp [same]), ← ih, collect, find?, List.lookup_cons,
          beq_false_of_ne (Ne.symm same)]
        exact find?_erase_of_ne (Ne.symm same) (collect rest)

/-! Entries of one name among others that are collected. -/

theorem erase_comm (fields : Fields α) (name other : String) :
    erase (erase fields name) other = erase (erase fields other) name := by
  rw [erase, erase, erase, erase, List.filter_filter, List.filter_filter]
  simp only [Bool.and_comm]

theorem erase_erase (fields : Fields α) (name : String) :
    erase (erase fields name) name = erase fields name := by
  rw [erase, erase, List.filter_filter]
  simp only [Bool.and_self]

theorem erase_collect (entries : List (String × α)) (name : String) :
    erase (collect entries) name = collect (erase entries name) := by
  induction entries with
  | nil => rfl
  | cons entry rest ih =>
      obtain ⟨first, value⟩ := entry
      by_cases same : first = name
      · subst same
        have left : erase ((first, value) :: rest) first = erase rest first :=
          List.filter_cons_of_neg (by simp)
        rw [left, ← ih, collect, erase, List.filter_cons_of_neg (by simp)]
        exact erase_erase (collect rest) first
      · have kept (own : α) (others : List (String × α)) :
            erase ((first, own) :: others) name = (first, own) :: erase others name :=
          List.filter_cons_of_pos (by simp [same])
        rw [kept, collect, collect, kept, ← ih, find?_erase_of_ne same, erase_comm]

theorem exists_collect_around {before behind : List (String × α)} (value : α)
    (fresh : name ∉ names before) (alone : name ∉ names behind) :
    ∃ earlier later,
      collect (before ++ (name, value) :: behind) = earlier ++ (name, value) :: later ∧
      collect (before ++ behind) = earlier ++ later ∧ names earlier = names (collect before) := by
  induction before with
  | nil =>
      have unlisted : name ∉ names (collect behind) := by
        rwa [names_collect, List.mem_eraseDups]
      have whole : erase (collect behind) name = collect behind := by
        refine List.filter_eq_self.mpr fun entry member => bne_iff_ne.mpr ?_
        rintro rfl
        exact unlisted (List.mem_map_of_mem member)
      refine ⟨[], collect behind, ?_, rfl, rfl⟩
      rw [List.nil_append, collect, find?_eq_none_iff.mpr unlisted, whole]
      rfl
  | cons entry rest ih =>
      obtain ⟨first, own⟩ := entry
      have differ : name ≠ first := fun same => fresh (same ▸ List.mem_cons_self)
      obtain ⟨earlier, later, around, others, ahead⟩ :=
        ih fun member => fresh (List.mem_cons_of_mem first member)
      have split : erase (earlier ++ (name, value) :: later) first =
          erase earlier first ++ (name, value) :: erase later first := by
        rw [erase, List.filter_append, List.filter_cons_of_pos (by simp [differ])]
        rfl
      have found : find? (earlier ++ (name, value) :: later) first =
          find? (earlier ++ later) first := by
        rw [find?, find?, List.lookup_append, List.lookup_append, List.lookup_cons,
          beq_false_of_ne (Ne.symm differ)]
      refine ⟨(first, (find? (earlier ++ later) first).getD own) :: erase earlier first,
        erase later first, ?_, ?_, ?_⟩
      · rw [List.cons_append, collect, around, split, found]
        rfl
      · rw [List.cons_append, collect, others, erase, List.filter_append]
        rfl
      · change first :: names (erase earlier first) = names (collect ((first, own) :: rest))
        rw [names_erase, ahead, collect]
        change _ = first :: names (erase (collect rest) first)
        rw [names_erase]

/-! A name that is inserted has its value, in the place that it had or behind all others. -/

theorem find?_insert_self (fields : Fields α) (name : String) (value : α) :
    find? (insert fields name value) name = some value := by
  induction fields with
  | nil => exact List.lookup_cons_self
  | cons entry rest ih =>
      rw [insert]
      split
      · exact List.lookup_cons_self
      · rename_i differ
        rw [find?, List.lookup_cons, beq_false_of_ne (Ne.symm differ)]
        exact ih

theorem find?_insert_of_ne {other : String} (differ : other ≠ name) (fields : Fields α)
    (value : α) : find? (insert fields name value) other = find? fields other := by
  induction fields with
  | nil =>
      rw [insert, find?, List.lookup_cons, beq_false_of_ne differ]
      rfl
  | cons entry rest ih =>
      rw [insert]
      split
      · rename_i same
        rw [find?, find?, List.lookup_cons, List.lookup_cons, same, beq_false_of_ne differ]
      · rw [find?, find?, List.lookup_cons, List.lookup_cons]
        split
        · rfl
        · exact ih

theorem names_insert (fields : Fields α) (name : String) (value : α) :
    names (insert fields name value) =
      if name ∈ names fields then names fields else names fields ++ [name] := by
  induction fields with
  | nil => rfl
  | cons entry rest ih =>
      have listed : names (entry :: rest) = entry.1 :: names rest := rfl
      rw [insert, listed]
      by_cases same : entry.1 = name
      · rw [if_pos same, if_pos (same ▸ List.mem_cons_self)]
        exact congrArg (· :: names rest) same.symm
      · have elsewhere : name ∈ entry.1 :: names rest ↔ name ∈ names rest := by
          simp [Ne.symm same]
        rw [if_neg same, if_congr elsewhere rfl rfl]
        change entry.1 :: names (insert rest name value) = _
        rw [ih]
        split <;> rfl

end Fields

end MarkupTree
