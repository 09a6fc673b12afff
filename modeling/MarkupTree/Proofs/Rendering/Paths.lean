import MarkupTree.Proofs.Rendering.Inlining
import MarkupTree.Proofs.Syntax.Paths

/-!
Paths and expressions agree: where a path is written as an expression it is looked up all the same.
So a binding, the content or the class of a node may be spelled either way.
-/

namespace MarkupTree

/-- A path that is an expression, too: its names are words, it starts with the name of some data,
and it has no more names than an expression has levels. -/
def IsPath (path : String) : Prop :=
  ∃ first others, IsDotted path first others ∧ Expr.isCallOnly first = false ∧
    others.length < nestingLimit

namespace Expr

theorem staticPath_members {object : Expr} {path : String} (static : staticPath object = some path)
    (names : List String) :
    staticPath (object.members names) = some (String.intercalate "." (path :: names)) := by
  induction names generalizing object path with
  | nil => rw [String.intercalate_singleton]; exact static
  | cons name rest ih =>
      have next : staticPath (.member object name) = some (path ++ "." ++ name) := by
        rw [staticPath, static, Option.map_some]
      rw [intercalate_dot_cons]
      exact ih next

theorem evaluate_of_staticPath {expr : Expr} {path : String} (static : staticPath expr = some path)
    (scope : Scope) : evaluate scope expr = .ok (scope.lookup path) := by
  cases expr with
  | identifier name =>
      simp only [staticPath] at static
      split at static
      · cases static
      · rename_i data
        cases static
        rw [evaluate, identifierValue]
        by_cases context : path = "context"
        · subst context
          rfl
        · by_cases props : path = "props"
          · subst props
            rfl
          · rw [if_neg context, if_neg props, if_neg data]
  | member object name => simp only [evaluate, static]
  | _ => cases static

end Expr

namespace IsPath

variable {path : String}

theorem evaluate (isPath : IsPath path) (scope : Scope) :
    scope.evaluate path = .ok (scope.lookup path) := by
  obtain ⟨first, others, dotted, data, short⟩ := isPath
  have start : Expr.staticPath (.identifier first) = some first := by
    rw [Expr.staticPath, if_neg (by rw [data]; exact Bool.false_ne_true)]
  rw [Scope.evaluate, dotted.parse short]
  have read := Expr.evaluate_of_staticPath (Expr.staticPath_members start others) scope
  rwa [← dotted.spelled] at read

theorem evaluateSoft (isPath : IsPath path) (scope : Scope) :
    scope.evaluateSoft path = .ok (scope.lookup path) := by
  rw [Scope.evaluateSoft, isPath.evaluate]

end IsPath

/-! Bindings that come to the same in every scope. -/

def Binding.Same (binding other : Binding) : Prop :=
  ∀ scope, binding.resolve scope = other.resolve scope

def Bindings.Same : Bindings → Bindings → Prop :=
  List.Forall₂ fun entry other => entry.1 = other.1 ∧ Binding.Same entry.2 other.2

namespace Bindings.Same

variable {bindings others : Bindings}

theorem refl (bindings : Bindings) : Same bindings bindings :=
  List.forall₂_same.mpr fun _ _ => ⟨rfl, fun _ => rfl⟩

theorem resolve (same : Same bindings others) (scope : Scope) :
    bindings.resolve scope = others.resolve scope := by
  have each : bindings.resolveEach scope = others.resolveEach scope := by
    induction same with
    | nil => rfl
    | @cons entry other rest others first _ ih =>
        obtain ⟨name, binding⟩ := entry
        obtain ⟨_, otherBinding⟩ := other
        obtain ⟨rfl, alike⟩ := first
        simp only [resolveEach, alike scope, ih]
  rw [Bindings.resolve, Bindings.resolve, each]

theorem resolveOptional {own other : Option Bindings} (same : Same (own.getD []) (other.getD []))
    (scope : Scope) :
    Bindings.resolveOptional scope own = Bindings.resolveOptional scope other := by
  have written (bindings : Option Bindings) :
      Bindings.resolveOptional scope bindings = (bindings.getD []).resolve scope := by
    cases bindings <;> rfl
  rw [written, written, same.resolve]

theorem without (same : Same bindings others) (name : String) :
    Same (bindings.without name) (others.without name) := by
  induction same with
  | nil => exact .nil
  | @cons entry other rest others first _ ih =>
      simp only [Bindings.without, List.filter_cons, first.1]
      split
      · exact .cons first ih
      · exact ih

theorem set (same : Same bindings others) (name : String) (binding : Binding) :
    Same (bindings.set name binding) (others.set name binding) := by
  induction same with
  | nil => exact refl _
  | @cons entry other rest others first behind ih =>
      simp only [Bindings.set, first.1]
      split
      · exact .cons ⟨rfl, fun _ => rfl⟩ (Same.without behind name)
      · exact .cons first ih

theorem respelled {path : String} (isPath : IsPath path) (key : String) (before behind : Bindings) :
    Same (before ++ Binding.classify ("__" ++ key) (.string path) :: behind)
      (before ++ Binding.classify ("==" ++ key) (.string path) :: behind) := by
  have looked : Binding.classify ("__" ++ key) (.string path) = (key, .path path) := by
    simp [Binding.classify, String.toList_append]
  have evaluated : Binding.classify ("==" ++ key) (.string path) = (key, .expression path) := by
    simp [Binding.classify, String.toList_append]
  rw [looked, evaluated]
  refine List.rel_append (refl before) (.cons ⟨rfl, ?_⟩ (refl behind))
  intro scope
  rw [Binding.resolve, Binding.resolve, isPath.evaluateSoft]
  rfl

end Bindings.Same

/-! Fields that spell the class of a node by a path, or by an expression. -/

inductive Fields.ClassAlike (path : String) : Fields Value → Fields Value → Prop
  | same (fields : Fields Value) : ClassAlike path fields fields
  | respelled (before behind : Fields Value)
      (fresh : ∀ entry ∈ before ++ behind, entry.1 ≠ "__class" ∧ entry.1 ≠ "==class") :
      ClassAlike path (before ++ ("__class", .string path) :: behind)
        (before ++ ("==class", .string path) :: behind)

namespace Fields.ClassAlike

variable {path : String} {fields others : Fields Value}

theorem find? (alike : ClassAlike path fields others) {name : String} (plain : name ≠ "__class")
    (soft : name ≠ "==class") : Fields.find? fields name = Fields.find? others name := by
  cases alike with
  | same => rfl
  | respelled before behind _ =>
      have plainPasses : (name == "__class") = false := beq_eq_false_iff_ne.mpr plain
      have softPasses : (name == "==class") = false := beq_eq_false_iff_ne.mpr soft
      simp only [Fields.find?, List.lookup_append, List.lookup_cons, plainPasses, softPasses]

theorem erase (alike : ClassAlike path fields others) {name : String} (plain : name ≠ "__class")
    (soft : name ≠ "==class") :
    ClassAlike path (Fields.erase fields name) (Fields.erase others name) := by
  cases alike with
  | same => exact .same _
  | respelled before behind fresh =>
      have kept : ∀ entry ∈ Fields.erase before name ++ Fields.erase behind name,
          entry.1 ≠ "__class" ∧ entry.1 ≠ "==class" := by
        intro entry member
        rw [Fields.erase, Fields.erase, ← List.filter_append] at member
        exact fresh entry (List.mem_filter.mp member).1
      have result : ClassAlike path _ _ := .respelled _ _ kept
      simpa [Fields.erase, List.filter_append, List.filter_cons, plain.symm, soft.symm] using result

theorem written (alike : ClassAlike path fields others) :
    fields = others ∨
      (Fields.find? fields "__class" = some (.string path) ∧
        Fields.find? fields "==class" = none) ∧
      Fields.find? others "__class" = none ∧
        Fields.find? others "==class" = some (.string path) := by
  cases alike with
  | same => exact .inl rfl
  | respelled before behind fresh =>
      have absent {part : Fields Value} (included : part ⊆ before ++ behind) :
          List.lookup "__class" part = none ∧ List.lookup "==class" part = none := by
        simp only [List.lookup_eq_none_iff, bne_iff_ne]
        exact ⟨fun entry member same => (fresh entry (included member)).1 same.symm,
          fun entry member same => (fresh entry (included member)).2 same.symm⟩
      obtain ⟨path_before, soft_before⟩ := absent (List.subset_append_left before behind)
      obtain ⟨path_behind, soft_behind⟩ := absent (List.subset_append_right before behind)
      refine .inr ⟨⟨?_, ?_⟩, ?_, ?_⟩ <;>
        simp [Fields.find?, List.lookup_append, List.lookup_cons, path_before, soft_before,
          path_behind, soft_behind]

theorem classes (isPath : IsPath path) {node other : Node}
    (alike : ClassAlike path node.fields other.fields) (scope : Scope) :
    ClassShortcut.classes scope node = ClassShortcut.classes scope other := by
  have plain : node.field? "class" = other.field? "class" := alike.find? (by decide) (by decide)
  have list : node.field? "classList" = other.field? "classList" :=
    alike.find? (by decide) (by decide)
  rw [ClassShortcut.classes, ClassShortcut.classes, plain, list]
  simp only [Node.field?]
  rcases alike.written with same | ⟨⟨first, second⟩, third, fourth⟩
  · rw [same]
  · rw [first, second, third, fourth]
    simp only [ClassShortcut.ofPath, ClassShortcut.ofExpression, isPath.evaluateSoft]
    -- The path and the expression come next to each other, so it does not matter which one is used.
    have once {α : Type} (x : α) (next : α → Except Fault (List String)) :
        ((.ok x : Except Fault α) >>= next) = next x := rfl
    simp only [once, pure_bind, List.append_nil]

theorem withoutFields {node other : Node} (alike : ClassAlike path node.fields other.fields) :
    (ClassShortcut.withoutFields node).fields = (ClassShortcut.withoutFields other).fields := by
  simp only [ClassShortcut.withoutFields, Node.withoutField]
  generalize node.fields = fields at alike
  generalize other.fields = others at alike
  cases alike with
  | same => rfl
  | respelled before behind fresh => simp [Fields.erase, List.filter_append]

end Fields.ClassAlike

end MarkupTree
