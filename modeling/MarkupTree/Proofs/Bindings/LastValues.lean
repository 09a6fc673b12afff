import MarkupTree.Binding.Basic
import MarkupTree.Proofs.Values.Fields

/-!
Bindings of which some have values. A name has its place from the first of its bindings that has one,
and holds the last of their values.
-/

namespace MarkupTree.Bindings

variable {value? : Binding → Option Value} {bindings : Bindings} {entry : String × Binding}
  {name : String} {binding : Binding} {value : Value}

def valued (value? : Binding → Option Value) (bindings : Bindings) : List (String × Value) :=
  bindings.filterMap fun entry => (value? entry.2).map (entry.1, ·)

def Gives (value? : Binding → Option Value) (bindings : Bindings) (name : String)
    (binding : Binding) (value : Value) : Prop :=
  ∃ before behind, bindings = before ++ (name, binding) :: behind ∧ value? binding = some value ∧
    ∀ entry ∈ behind, entry.1 = name → value? entry.2 = none

theorem valued_cons_some (held : value? entry.2 = some value) :
    valued value? (entry :: bindings) = (entry.1, value) :: valued value? bindings := by
  rw [valued, List.filterMap_cons, held]
  rfl

theorem valued_cons_none (held : value? entry.2 = none) :
    valued value? (entry :: bindings) = valued value? bindings := by
  rw [valued, List.filterMap_cons, held]
  rfl

theorem valued_filter (value? : Binding → Option Value) (bindings : Bindings)
    (kept : String → Bool) : valued value? (bindings.filter fun entry => kept entry.1) =
      (valued value? bindings).filter fun entry => kept entry.1 := by
  rw [valued, valued, List.filter_filterMap, List.filterMap_filter]
  apply List.filterMap_congr
  intro entry _
  cases chosen : kept entry.1 <;> cases value? entry.2 <;> simp [chosen, Option.filter]

theorem names_valued (value? : Binding → Option Value) (bindings : Bindings) :
    Fields.names (valued value? bindings) =
      (bindings.filter fun entry => (value? entry.2).isSome).map Prod.fst := by
  induction bindings with
  | nil => rfl
  | cons entry rest ih =>
      cases held : value? entry.2 with
      | none =>
          rw [valued_cons_none held, ih, List.filter_cons_of_neg]
          rw [held]
          exact Bool.false_ne_true
      | some value =>
          rw [valued_cons_some held, List.filter_cons_of_pos, List.map_cons, ← ih]
          · rfl
          · rw [held]
            rfl

theorem notMem_names_valued_iff : name ∉ Fields.names (valued value? bindings) ↔
    ∀ entry ∈ bindings, entry.1 = name → value? entry.2 = none := by
  simp only [names_valued, List.mem_map, List.mem_filter, not_exists, not_and, and_imp,
    Option.isSome_iff_ne_none]
  exact forall₂_congr fun entry member => not_imp_not

theorem gives_cons : Gives value? (entry :: bindings) name binding value ↔
    (entry = (name, binding) ∧ value? binding = some value ∧
      name ∉ Fields.names (valued value? bindings)) ∨
    Gives value? bindings name binding value := by
  rw [notMem_names_valued_iff]
  constructor
  · rintro ⟨_ | ⟨first, before⟩, behind, same, held, last⟩
    · obtain ⟨rfl, rfl⟩ := List.cons.inj same
      exact .inl ⟨rfl, held, last⟩
    · obtain ⟨rfl, rfl⟩ := List.cons.inj same
      exact .inr ⟨before, behind, rfl, held, last⟩
  · rintro (⟨rfl, held, last⟩ | ⟨before, behind, rfl, held, last⟩)
    · exact ⟨[], bindings, rfl, held, last⟩
    · exact ⟨entry :: before, behind, rfl, held, last⟩

theorem isLast_valued_iff : Fields.IsLast (valued value? bindings) name value ↔
    ∃ binding, Gives value? bindings name binding value := by
  induction bindings with
  | nil => simp [valued, Fields.IsLast, Gives]
  | cons entry rest ih =>
      simp only [gives_cons, exists_or, ← ih]
      cases held : value? entry.2 with
      | none =>
          rw [valued_cons_none held]
          refine (or_iff_right ?_).symm
          rintro ⟨binding, rfl, own, -⟩
          cases held.symm.trans own
      | some own =>
          rw [valued_cons_some held, Fields.isLast_cons]
          refine or_congr_left ?_
          constructor
          · rintro ⟨⟨rfl, rfl⟩, last⟩
            exact ⟨entry.2, rfl, held, last⟩
          · rintro ⟨binding, rfl, given, last⟩
            cases held.symm.trans given
            exact ⟨rfl, last⟩

end MarkupTree.Bindings
