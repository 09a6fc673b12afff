import MarkupTree.Proofs.Bindings.Edits

/-!
Where a name that is set comes to stand among the fields that bindings resolve to. It is behind the
fields of the bindings ahead of its first one, or last where there was none, and all others stay as
they are, in the same order.
-/

namespace MarkupTree.Bindings

variable {bindings : Bindings} {name : String}

def ahead (bindings : Bindings) (name : String) : Bindings :=
  bindings.takeWhile fun entry => entry.1 != name

theorem ahead_cons_of_eq {entry : String × Binding} (same : entry.1 = name) (rest : Bindings) :
    ahead (entry :: rest) name = [] := by
  rw [ahead, List.takeWhile_cons_of_neg (by simp [same])]

theorem ahead_cons_of_ne {entry : String × Binding} (differ : entry.1 ≠ name) (rest : Bindings) :
    ahead (entry :: rest) name = entry :: ahead rest name := by
  rw [ahead, List.takeWhile_cons_of_pos (by simp [differ])]
  rfl

theorem ahead_of_absent (absent : name ∉ Fields.names bindings) :
    ahead bindings name = bindings := by
  refine List.takeWhile_eq_self_iff.mpr fun entry member => bne_iff_ne.mpr ?_
  rintro rfl
  exact absent (List.mem_map_of_mem member)

theorem without_of_absent (absent : name ∉ Fields.names bindings) :
    without bindings name = bindings := by
  refine List.filter_eq_self.mpr fun entry member => bne_iff_ne.mpr ?_
  rintro rfl
  exact absent (List.mem_map_of_mem member)

theorem exists_set_around (bindings : Bindings) (name : String) (binding : Binding) :
    ∃ behind, set bindings name binding = ahead bindings name ++ (name, binding) :: behind ∧
      without bindings name = ahead bindings name ++ behind := by
  induction bindings with
  | nil => exact ⟨[], rfl, rfl⟩
  | cons entry rest ih =>
      by_cases same : entry.1 = name
      · refine ⟨without rest name, ?_, ?_⟩
        · rw [set, if_pos same, ahead_cons_of_eq same, List.nil_append]
        · rw [without_cons_of_eq same, ahead_cons_of_eq same, List.nil_append]
      · obtain ⟨behind, around, others⟩ := ih
        refine ⟨behind, ?_, ?_⟩
        · rw [set, if_neg same, ahead_cons_of_ne same, around, List.cons_append]
        · rw [without_cons_of_ne same, ahead_cons_of_ne same, others, List.cons_append]

variable {scope : Scope}

theorem valued_append (value? : Binding → Option Value) (before behind : Bindings) :
    valued value? (before ++ behind) = valued value? before ++ valued value? behind :=
  List.filterMap_append

theorem valued_without (value? : Binding → Option Value) (bindings : Bindings) (name : String) :
    valued value? (without bindings name) = Fields.erase (valued value? bindings) name :=
  valued_filter value? bindings (· != name)

theorem notMem_names_valued_of_ne (value? : Binding → Option Value)
    (differ : ∀ entry ∈ bindings, entry.1 ≠ name) :
    name ∉ Fields.names (valued value? bindings) :=
  notMem_names_valued_iff.mpr fun entry member same => absurd same (differ entry member)

/-- Where a name comes to stand: behind the fields of the bindings ahead of it. -/
structure IsPlaced (scope : Scope) (bindings : Bindings) (name : String)
    (earlier later : Fields Value) : Prop where
  behind : ∃ given, (bindings.ahead name).resolve scope = .ok given ∧
    Fields.names earlier = Fields.names given
  last : name ∉ Fields.names bindings → later = []

theorem exists_resolve_set {fields : Fields Value} (resolved : bindings.resolve scope = .ok fields)
    {value : Value} (solid : value ≠ .null) (name : String) :
    ∃ earlier later, IsPlaced scope bindings name earlier later ∧
      (bindings.set name (.literal value)).resolve scope =
        .ok (earlier ++ (name, value) :: later) ∧
      Fields.erase fields name = earlier ++ later := by
  obtain ⟨behind, around, others⟩ := exists_set_around bindings name (.literal value)
  have each := exists_of_resolve_eq_ok resolved
  have kept : ∀ entry ∈ ahead bindings name ++ behind, entry ∈ bindings ∧ entry.1 ≠ name := by
    intro entry member
    rw [← others] at member
    obtain ⟨own, differ⟩ := List.mem_filter.mp member
    exact ⟨own, bne_iff_ne.mp differ⟩
  obtain ⟨before, after⟩ := List.forall_mem_append.mp kept
  have solves : (Binding.literal value).resolve scope = .ok (some value) := by
    cases value with
    | null => exact absurd rfl solid
    | _ => rfl
  have own : (Binding.literal value).value? scope = some value := by
    rw [Binding.value?, solves]
    rfl
  let value? := Binding.value? scope
  have fresh := notMem_names_valued_of_ne value? fun entry member => (before entry member).2
  have alone := notMem_names_valued_of_ne value? fun entry member => (after entry member).2
  obtain ⟨earlier, later, placed, joined, names⟩ :=
    Fields.exists_collect_around value fresh alone
  have given : (ahead bindings name).resolve scope =
      .ok (Fields.collect (valued value? (ahead bindings name))) :=
    resolve_eq_collect fun entry member => each entry (before entry member).1
  refine ⟨earlier, later, ⟨⟨_, given, names⟩, ?_⟩, ?_, ?_⟩
  · intro absent
    -- Nothing is left out ahead of a name that is missing, so nothing can be behind it.
    have none : behind = [] := by
      rw [without_of_absent absent, ahead_of_absent absent] at others
      exact List.self_eq_append_right.mp others
    rw [none] at joined
    have lengths : (Fields.names earlier).length = (Fields.names (earlier ++ later)).length := by
      rw [names, ← joined]
      simp [valued]
    simpa [Fields.names] using lengths
  · rw [around, resolve_eq_collect, valued_append, valued_cons_some own, placed]
    refine List.forall_mem_append.mpr ⟨fun entry member => each entry (before entry member).1,
      List.forall_mem_cons.mpr ⟨⟨_, solves⟩, fun entry member => each entry (after entry member).1⟩⟩
  · have whole : fields = Fields.collect (valued value? bindings) := eq_collect_of_resolve resolved
    calc
      Fields.erase fields name =
          Fields.collect (Fields.erase (valued value? bindings) name) := by
        rw [whole, Fields.erase_collect]
      _ = Fields.collect (valued value? (ahead bindings name ++ behind)) := by
        rw [← valued_without, others]
      _ = earlier ++ later := by
        rw [valued_append, joined]

end MarkupTree.Bindings
