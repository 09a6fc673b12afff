import Mathlib
import MarkupTree.Binding.Resolve
import MarkupTree.Proofs.Bindings.LastValues

/-!
Edits of bindings. A name that is set has one binding, in the place of its first one; a name that is
removed loses no more than its first one. What a name resolves to depends on its own bindings alone,
so an edit is seen under its own name only.
-/

namespace MarkupTree

def Binding.value? (scope : Scope) (binding : Binding) : Option Value :=
  (binding.resolve scope).toOption.join

namespace Bindings

variable {bindings changed : Bindings} {name other : String} {binding : Binding}

def named (bindings : Bindings) (name : String) : Bindings :=
  bindings.filter fun entry => entry.1 == name

theorem named_cons_of_eq {entry : String × Binding} (same : entry.1 = name) (rest : Bindings) :
    named (entry :: rest) name = entry :: named rest name := by
  rw [named, List.filter_cons_of_pos (by simp [same])]
  rfl

theorem named_cons_of_ne {entry : String × Binding} (differ : entry.1 ≠ name) (rest : Bindings) :
    named (entry :: rest) name = named rest name := by
  rw [named, List.filter_cons_of_neg (by simp [differ])]
  rfl

theorem without_cons_of_eq {entry : String × Binding} (same : entry.1 = name) (rest : Bindings) :
    without (entry :: rest) name = without rest name := by
  rw [without, List.filter_cons_of_neg (by simp [same])]
  rfl

theorem without_cons_of_ne {entry : String × Binding} (differ : entry.1 ≠ name) (rest : Bindings) :
    without (entry :: rest) name = entry :: without rest name := by
  rw [without, List.filter_cons_of_pos (by simp [differ])]
  rfl

theorem named_eq_nil_iff : named bindings name = [] ↔ ∀ entry ∈ bindings, entry.1 ≠ name := by
  simp [named, List.filter_eq_nil_iff]

theorem named_without_self (bindings : Bindings) (name : String) :
    named (without bindings name) name = [] := by
  rw [named_eq_nil_iff]
  intro entry member
  exact bne_iff_ne.mp (List.mem_filter.mp member).2

theorem without_without (bindings : Bindings) (name : String) :
    without (without bindings name) name = without bindings name := by
  rw [without, without, List.filter_filter]
  simp only [Bool.and_self]

theorem named_without_of_ne (differ : other ≠ name) (bindings : Bindings) :
    named (without bindings name) other = named bindings other := by
  rw [named, without, List.filter_filter]
  apply List.filter_congr
  intro entry _
  by_cases same : entry.1 = other <;> simp [same, differ]

theorem named_eq_of_without_eq (same : changed.without name = bindings.without name)
    (differ : other ≠ name) : named changed other = named bindings other := by
  rw [← named_without_of_ne differ changed, same, named_without_of_ne differ]

theorem get?_eq_head? (bindings : Bindings) (name : String) :
    get? bindings name = (named bindings name).head?.map Prod.snd := by
  induction bindings with
  | nil => rfl
  | cons entry rest ih =>
      by_cases same : entry.1 = name
      · rw [named_cons_of_eq same, get?, List.lookup_cons, same, beq_self_eq_true]
        rfl
      · rw [named_cons_of_ne same, ← ih, get?, List.lookup_cons, beq_false_of_ne (Ne.symm same)]
        rfl

/-! What each edit does to the bindings of its own name and to those of other names. -/

theorem named_set (bindings : Bindings) (name : String) (binding : Binding) :
    named (set bindings name binding) name = [(name, binding)] := by
  induction bindings with
  | nil => exact named_cons_of_eq rfl []
  | cons entry rest ih =>
      by_cases same : entry.1 = name
      · rw [set, if_pos same, named_cons_of_eq rfl, named_without_self]
      · rw [set, if_neg same, named_cons_of_ne same, ih]

theorem without_set (bindings : Bindings) (name : String) (binding : Binding) :
    without (set bindings name binding) name = without bindings name := by
  induction bindings with
  | nil => exact without_cons_of_eq rfl []
  | cons entry rest ih =>
      by_cases same : entry.1 = name
      · rw [set, if_pos same, without_cons_of_eq rfl, without_without, without_cons_of_eq same]
      · rw [set, if_neg same, without_cons_of_ne same, without_cons_of_ne same, ih]

theorem set_append {before : Bindings} (fresh : name ∉ Fields.names before) (behind : Bindings)
    (binding : Binding) : set (before ++ behind) name binding = before ++ set behind name binding := by
  induction before with
  | nil => rfl
  | cons entry rest ih =>
      have differ : entry.1 ≠ name := fun same => fresh (same ▸ List.mem_cons_self)
      have others : name ∉ Fields.names rest := fun member => fresh (List.mem_cons_of_mem _ member)
      rw [List.cons_append, set, if_neg differ, ih others, List.cons_append]

theorem set_of_first {before : Bindings} (fresh : name ∉ Fields.names before) (first : Binding)
    (behind : Bindings) (binding : Binding) :
    set (before ++ (name, first) :: behind) name binding =
      before ++ (name, binding) :: without behind name := by
  rw [set_append fresh, set, if_pos rfl]

theorem set_of_absent (absent : name ∉ Fields.names bindings) (binding : Binding) :
    set bindings name binding = bindings ++ [(name, binding)] := by
  have last := set_append absent [] binding
  rwa [List.append_nil, set] at last

theorem set_set (bindings : Bindings) (name : String) (first last : Binding) :
    set (set bindings name first) name last = set bindings name last := by
  induction bindings with
  | nil => exact if_pos rfl
  | cons entry rest ih =>
      by_cases same : entry.1 = name
      · rw [set, set, if_pos same, if_pos same, set, if_pos rfl, without_without]
      · rw [set, set, if_neg same, if_neg same, set, if_neg same, ih]

theorem named_remove (bindings : Bindings) (name : String) :
    named (remove bindings name) name = (named bindings name).tail := by
  induction bindings with
  | nil => rfl
  | cons entry rest ih =>
      by_cases same : entry.1 = name
      · rw [remove, if_pos same, named_cons_of_eq same, List.tail_cons]
      · rw [remove, if_neg same, named_cons_of_ne same, named_cons_of_ne same, ih]

theorem without_remove (bindings : Bindings) (name : String) :
    without (remove bindings name) name = without bindings name := by
  induction bindings with
  | nil => rfl
  | cons entry rest ih =>
      by_cases same : entry.1 = name
      · rw [remove, if_pos same, without_cons_of_eq same]
      · rw [remove, if_neg same, without_cons_of_ne same, without_cons_of_ne same, ih]

/-! The value of a name after resolving. -/

variable {scope : Scope} {fields : Fields Value}

theorem resolveEach_eq_valued
    (each : ∀ entry ∈ bindings, ∃ result, entry.2.resolve scope = .ok result) :
    resolveEach scope bindings = .ok (valued (Binding.value? scope) bindings) := by
  induction bindings with
  | nil => rfl
  | cons entry rest ih =>
      obtain ⟨⟨result, own⟩, others⟩ := List.forall_mem_cons.mp each
      have value : entry.2.value? scope = result := by
        rw [Binding.value?, own]
        rfl
      rw [resolveEach, own, ih others]
      cases result with
      | none => rw [valued_cons_none value]; rfl
      | some found => rw [valued_cons_some value]; rfl

theorem resolve_eq_collect
    (each : ∀ entry ∈ bindings, ∃ result, entry.2.resolve scope = .ok result) :
    bindings.resolve scope = .ok (Fields.collect (valued (Binding.value? scope) bindings)) := by
  rw [resolve, resolveEach_eq_valued each]
  rfl

theorem exists_of_resolve_eq_ok (resolved : bindings.resolve scope = .ok fields) :
    ∀ entry ∈ bindings, ∃ result, entry.2.resolve scope = .ok result := by
  obtain ⟨values, found⟩ : ∃ values, resolveEach scope bindings = .ok values := by
    rw [resolve] at resolved
    cases found : resolveEach scope bindings with
    | error fault => rw [found] at resolved; cases resolved
    | ok values => exact ⟨values, rfl⟩
  clear resolved
  induction bindings generalizing values with
  | nil => exact nofun
  | cons entry rest ih =>
      rw [resolveEach] at found
      cases own : entry.2.resolve scope with
      | error fault => rw [own] at found; cases found
      | ok result =>
          cases others : resolveEach scope rest with
          | error fault => rw [own, others] at found; cases found
          | ok behind => exact List.forall_mem_cons.mpr ⟨⟨result, own⟩, ih behind others⟩

theorem eq_collect_of_resolve (resolved : bindings.resolve scope = .ok fields) :
    fields = Fields.collect (valued (Binding.value? scope) bindings) :=
  Except.ok.inj (resolved.symm.trans (resolve_eq_collect (exists_of_resolve_eq_ok resolved)))

/-- The value of a name is the last one that its own bindings have. -/
theorem find?_of_resolve (resolved : bindings.resolve scope = .ok fields) (name : String) :
    Fields.find? fields name =
      ((named bindings name).filterMap fun entry => entry.2.value? scope).getLast? := by
  let held := valued (Binding.value? scope)
  have values (part : Bindings) :
      (held part).map Prod.snd = part.filterMap fun entry => entry.2.value? scope := by
    simp only [held, valued, List.map_filterMap, Option.map_map, Function.comp_def, Option.map_id']
  calc
    Fields.find? fields name =
        (((held bindings).filter fun entry => entry.1 == name).getLast?).map Prod.snd := by
      rw [eq_collect_of_resolve resolved, Fields.find?_collect]
    _ = ((held (named bindings name)).map Prod.snd).getLast? := by
      rw [List.getLast?_map, named]
      exact congrArg (fun part => part.getLast?.map Prod.snd)
        (valued_filter _ bindings (· == name)).symm
    _ = ((named bindings name).filterMap fun entry => entry.2.value? scope).getLast? := by
      rw [values]

/-- The second bindings are the first with a binding set: it is the only one of its name and stands
where the first one stood, or last, and those of other names are as they were. -/
structure IsSet (name : String) (binding : Binding) (bindings changed : Bindings) : Prop where
  alone : changed.named name = [(name, binding)]
  others : changed.without name = bindings.without name
  placed : ∀ before first behind, bindings = before ++ (name, first) :: behind →
    name ∉ Fields.names before → ∃ rest, changed = before ++ (name, binding) :: rest
  appended : name ∉ Fields.names bindings → changed = bindings ++ [(name, binding)]

theorem isSet_set (bindings : Bindings) (name : String) (binding : Binding) :
    IsSet name binding bindings (bindings.set name binding) where
  alone := named_set bindings name binding
  others := without_set bindings name binding
  placed _ first behind same fresh :=
    ⟨without behind name, same ▸ set_of_first fresh first behind binding⟩
  appended absent := set_of_absent absent binding

theorem IsSet.get? (isSet : IsSet name binding bindings changed) :
    changed.get? name = some binding := by
  rw [get?_eq_head?, isSet.alone]
  rfl

theorem get?_eq_of_without_eq (same : changed.without name = bindings.without name)
    (differ : other ≠ name) : changed.get? other = bindings.get? other := by
  rw [get?_eq_head?, get?_eq_head?, named_eq_of_without_eq same differ]

theorem IsSet.resolve (isSet : IsSet name binding bindings changed)
    (resolved : changed.resolve scope = .ok fields) :
    binding.resolve scope = .ok (Fields.find? fields name) := by
  have member : (name, binding) ∈ changed.named name := by
    rw [isSet.alone]
    exact List.mem_singleton_self (name, binding)
  obtain ⟨result, own⟩ :=
    exists_of_resolve_eq_ok resolved (name, binding) (List.mem_filter.mp member).1
  have value : binding.value? scope = result := by
    rw [Binding.value?, own]
    rfl
  rw [find?_of_resolve resolved, isSet.alone, own]
  cases result <;> simp [value]

theorem find?_eq_of_without_eq {others : Fields Value}
    (same : changed.without name = bindings.without name)
    (resolved : bindings.resolve scope = .ok fields)
    (altered : changed.resolve scope = .ok others) (differ : other ≠ name) :
    Fields.find? others other = Fields.find? fields other := by
  rw [find?_of_resolve altered, find?_of_resolve resolved, named_eq_of_without_eq same differ]

/--
Setting a name leaves exactly one binding of it, in the place of the first, and touches no other
name. It is what the name gets, whatever was set before, and what the name resolves to; other names
keep their values.
-/
theorem set_exact (bindings : Bindings) (name : String) (binding : Binding) :
    IsSet name binding bindings (bindings.set name binding) ∧
    (bindings.set name binding).get? name = some binding ∧
    (∀ other, other ≠ name → (bindings.set name binding).get? other = bindings.get? other) ∧
    (bindings.set name binding).set name binding = bindings.set name binding ∧
    (∀ later, (bindings.set name binding).set name later = bindings.set name later) ∧
    ∀ scope fields changed, bindings.resolve scope = .ok fields →
      (bindings.set name binding).resolve scope = .ok changed →
      binding.resolve scope = .ok (Fields.find? changed name) ∧
        ∀ other, other ≠ name → Fields.find? changed other = Fields.find? fields other := by
  have isSet := isSet_set bindings name binding
  refine ⟨isSet, isSet.get?, ?_, set_set bindings name binding binding,
    set_set bindings name binding, ?_⟩
  · intro other differ
    exact get?_eq_of_without_eq isSet.others differ
  · intro scope fields changed resolved altered
    have others (other : String) (differ : other ≠ name) :=
      find?_eq_of_without_eq isSet.others resolved altered differ
    exact ⟨isSet.resolve altered, others⟩

def titledScope : Scope where
  context := .object [("title", .string "Site"), ("empty", .string "")]
  utilities := []
  props := .null
  depth := 0
  deeper _ _ := .ok ""

def repeatedNames : Bindings :=
  [("class", .path "title.missing"), ("alt", .literal (.string "")),
    ("class", .literal (.string "a")), ("alt", .path "empty"), ("class", .path "title"),
    ("class", .literal .null)]

theorem repeatedNames_set :
    repeatedNames.set "class" (.path "title") =
      [("class", .path "title"), ("alt", .literal (.string "")), ("alt", .path "empty")] ∧
    IsSet "class" (.path "title") repeatedNames (repeatedNames.set "class" (.path "title")) ∧
    ∃ fields changed, repeatedNames.resolve titledScope = .ok fields ∧
      (repeatedNames.set "class" (.path "title")).resolve titledScope = .ok changed ∧
      (Binding.path "title").resolve titledScope = .ok (Fields.find? changed "class") ∧
      Fields.find? changed "alt" = Fields.find? fields "alt" := by
  obtain ⟨isSet, -, -, -, -, values⟩ := set_exact repeatedNames "class" (.path "title")
  have resolved : repeatedNames.resolve titledScope =
      .ok [("alt", .string ""), ("class", .string "Site")] := by cbv
  have altered : (repeatedNames.set "class" (.path "title")).resolve titledScope =
      .ok [("class", .string "Site"), ("alt", .string "")] := by cbv
  obtain ⟨own, others⟩ := values titledScope _ _ resolved altered
  exact ⟨by cbv, isSet, _, _, resolved, altered, own, others "alt" (by decide)⟩

/-! Bindings that have been read and edited since. -/

inductive Edit where
  | insertRaw (key : String) (value : Value)
  | set (name : String) (binding : Binding)
  | remove (name : String)

def Edit.apply (bindings : Bindings) : Edit → Bindings
  | .insertRaw key value => bindings.insertRaw key value
  | .set name binding => bindings.set name binding
  | .remove name => bindings.remove name

/-- The bindings that fields spell, after edits. -/
def edited (raw : Fields Value) (edits : List Edit) : Bindings :=
  edits.foldl Edit.apply (ofFields raw)

def Edit.copies (name : String) (before : Nat) : Edit → Nat
  | .insertRaw key value => if (Binding.classify key value).1 = name then before + 1 else before
  | .set own _ => if own = name then 1 else before
  | .remove own => if own = name then before - 1 else before

/-- How many bindings of a name there are, told from what has been read and done. -/
def copies (name : String) (raw : Fields Value) (edits : List Edit) : Nat :=
  edits.foldl (Edit.copies name)
    (raw.countP fun entry => (Binding.classify entry.1 entry.2).1 == name)

theorem length_named_apply (bindings : Bindings) (edit : Edit) (name : String) :
    ((edit.apply bindings).named name).length = edit.copies name (bindings.named name).length := by
  cases edit with
  | insertRaw key value =>
      rw [Edit.apply, insertRaw, named, List.filter_append, List.length_append, Edit.copies, named]
      by_cases same : (Binding.classify key value).1 = name <;> simp [same]
  | set own binding =>
      rw [Edit.apply, Edit.copies]
      by_cases same : own = name
      · rw [if_pos same, same, named_set, List.length_singleton]
      · have others := without_set bindings own binding
        rw [if_neg same, named_eq_of_without_eq others (Ne.symm same)]
  | remove own =>
      rw [Edit.apply, Edit.copies]
      by_cases same : own = name
      · rw [if_pos same, same, named_remove, List.length_tail]
      · have others := without_remove bindings own
        rw [if_neg same, named_eq_of_without_eq others (Ne.symm same)]

theorem length_named_foldl (bindings : Bindings) (edits : List Edit) (name : String) :
    ((edits.foldl Edit.apply bindings).named name).length =
      edits.foldl (Edit.copies name) (bindings.named name).length := by
  induction edits generalizing bindings with
  | nil => rfl
  | cons edit rest ih => rw [List.foldl_cons, List.foldl_cons, ih, length_named_apply]

theorem length_named_edited (raw : Fields Value) (edits : List Edit) (name : String) :
    ((edited raw edits).named name).length = copies name raw edits := by
  have read : ((ofFields raw).named name).length =
      raw.countP fun entry => (Binding.classify entry.1 entry.2).1 == name := by
    rw [named, ofFields, ← List.countP_eq_length_filter, List.countP_map]
    rfl
  rw [edited, length_named_foldl, read, copies]

/-- Nothing of a name is left, and the bindings of other names are as they were. -/
structure IsCleared (name : String) (bindings left : Bindings) : Prop where
  gone : ∀ entry ∈ left, entry.1 ≠ name
  unbound : left.get? name = none
  unresolved : ∀ scope fields, left.resolve scope = .ok fields → name ∉ Fields.names fields
  others : left.without name = bindings.without name

theorem isCleared_remove_iff (bindings : Bindings) (name : String) :
    IsCleared name bindings (bindings.remove name) ↔ (bindings.named name).length ≤ 1 := by
  have left : (bindings.named name).length ≤ 1 ↔ (bindings.remove name).named name = [] := by
    rw [named_remove, ← List.length_eq_zero_iff, List.length_tail]
    omega
  rw [left]
  constructor
  · intro cleared
    exact named_eq_nil_iff.mpr cleared.gone
  · intro gone
    have unresolved (scope : Scope) (fields : Fields Value)
        (resolved : (bindings.remove name).resolve scope = .ok fields) :
        name ∉ Fields.names fields := by
      rw [← Fields.find?_eq_none_iff, find?_of_resolve resolved, gone]
      rfl
    exact {
      gone := named_eq_nil_iff.mp gone
      unbound := by rw [get?_eq_head?, gone]; rfl
      unresolved := unresolved
      others := without_remove bindings name }

/--
In bindings that have been read and edited, removing a name clears it exactly if no more than one
binding of it has come together. In any case its first binding goes, all others stay in order, and
the name resolves to the last value of those of its own that stay.
-/
theorem remove_clears_iff (raw : Fields Value) (edits : List Edit) (name : String) :
    (IsCleared name (edited raw edits) ((edited raw edits).remove name) ↔
      copies name raw edits ≤ 1) ∧
    ((edited raw edits).remove name).named name = ((edited raw edits).named name).tail ∧
    ((edited raw edits).remove name).without name = (edited raw edits).without name ∧
    ∀ scope fields, ((edited raw edits).remove name).resolve scope = .ok fields →
      Fields.find? fields name = (((edited raw edits).named name).tail.filterMap
        fun entry => entry.2.value? scope).getLast? := by
  refine ⟨?_, named_remove _ name, without_remove _ name, ?_⟩
  · rw [isCleared_remove_iff, length_named_edited]
  · intro scope fields resolved
    rw [find?_of_resolve resolved, named_remove]

/-- A class that is written as a text and as a path. -/
def styledTwice : Fields Value := [("class", .string "a"), ("__class", .string "title")]

theorem styledTwice_cleared :
    copies "class" styledTwice [.remove "class"] = 1 ∧
    IsCleared "class" (edited styledTwice [.remove "class"])
      ((edited styledTwice [.remove "class"]).remove "class") ∧
    Fields.find? [] "class" = (((edited styledTwice [.remove "class"]).named "class").tail.filterMap
      fun entry => entry.2.value? titledScope).getLast? := by
  have once : copies "class" styledTwice [.remove "class"] = 1 := by cbv
  have resolved : ((edited styledTwice [.remove "class"]).remove "class").resolve titledScope =
      .ok [] := by cbv
  obtain ⟨cleared, -, -, values⟩ := remove_clears_iff styledTwice [.remove "class"] "class"
  exact ⟨once, cleared.mpr once.le, values titledScope [] resolved⟩

/-- The path outlives the removal of the class: it is found under the name, and resolves. -/
theorem class_outlives_removal :
    (edited styledTwice []).remove "class" = [("class", .path "title")] ∧
    ((edited styledTwice []).remove "class").get? "class" = some (.path "title") ∧
    ((edited styledTwice []).remove "class").resolve titledScope =
      .ok [("class", .string "Site")] ∧
    ¬ ∀ raw edits name, IsCleared name (edited raw edits) ((edited raw edits).remove name) := by
  have left : (edited styledTwice []).remove "class" = [("class", .path "title")] := by cbv
  refine ⟨left, ?_, ?_, ?_⟩
  · rw [left]
    rfl
  · rw [left]
    cbv
  · intro cleared
    have gone := (cleared styledTwice [] "class").gone ("class", .path "title")
    rw [left] at gone
    exact gone (List.mem_singleton_self _) rfl

end Bindings

end MarkupTree
