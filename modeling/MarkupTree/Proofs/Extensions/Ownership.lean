import MarkupTree.Proofs.Bindings.Edits
import MarkupTree.Proofs.Rendering.Nodes

/-!
What an extension of the library owns of a node: the fields that it reads and takes away. They alone
decide what becomes of the node, and a node without them is left as it is.
-/

namespace MarkupTree

/-- What is new about a node: the classes that it gets, and its content. -/
structure Rewriting where
  classes : Option String := none
  content : Option String := none

def Rewriting.andThen (first second : Rewriting) : Rewriting :=
  ⟨second.classes.or first.classes, second.content.or first.content⟩

namespace Node

def rewritten (node : Node) (taken : List String) (rewriting : Rewriting) : Node :=
  { node with
    attributes := match rewriting.classes with
      | none => node.attributes
      | some classes =>
          some (Bindings.set (node.attributes.getD []) "class" (.literal (.string classes)))
    children := match rewriting.content with
      | none => node.children
      | some content => some (.text content)
    fields := node.fields.filter fun entry => entry.1 ∉ taken }

def verdict (node : Node) (taken : List String) : Option Rewriting → Verdict
  | some rewriting => .proceed (node.rewritten taken rewriting)
  | none => .stop

theorem field?_rewritten (node : Node) (taken : List String) (rewriting : Rewriting)
    (name : String) :
    (node.rewritten taken rewriting).field? name =
      if name ∈ taken then none else node.field? name := by
  have found := lookup_filter (fun name => decide (name ∉ taken)) node.fields name
  simp only [decide_eq_true_eq, ite_not] at found
  exact found

theorem rewritten_of_absent {node : Node} {taken : List String}
    (absent : ∀ name ∈ taken, node.field? name = none) : node.rewritten taken {} = node := by
  have kept : (node.fields.filter fun entry => entry.1 ∉ taken) = node.fields := by
    apply List.filter_eq_self.mpr
    intro entry member
    have held : entry.1 ∈ Fields.names node.fields := List.mem_map_of_mem member
    have untaken : entry.1 ∉ taken := fun own => Fields.find?_eq_none_iff.mp (absent _ own) held
    exact decide_eq_true untaken
  rw [rewritten, kept]
  cases node
  rfl

theorem rewritten_of_field?_eq_none {node : Node} {name : String}
    (absent : node.field? name = none) : node.rewritten [name] {} = node :=
  rewritten_of_absent fun _ own => List.mem_singleton.mp own ▸ absent

theorem rewritten_rewritten (node : Node) (taken others : List String)
    (first second : Rewriting) :
    (node.rewritten taken first).rewritten others second =
      node.rewritten (taken ++ others) (first.andThen second) := by
  have fields : ((node.fields.filter fun entry => entry.1 ∉ taken).filter
      fun entry => entry.1 ∉ others) = node.fields.filter fun entry => entry.1 ∉ taken ++ others := by
    rw [List.filter_filter]
    apply List.filter_congr
    intro entry _
    simp [Bool.and_comm]
  obtain ⟨classes, content⟩ := first
  obtain ⟨laterClasses, laterContent⟩ := second
  simp only [rewritten, Rewriting.andThen, fields]
  -- Of two classes the later one stays, and likewise of two contents.
  cases classes <;> cases laterClasses <;> cases content <;> cases laterContent <;>
    simp only [Option.or, Option.getD_some, Bindings.set_set]

theorem withoutField_eq (node : Node) (name : String) :
    node.withoutField name = node.rewritten [name] {} := by
  have same : Fields.erase node.fields name =
      node.fields.filter fun entry => entry.1 ∉ [name] := by
    apply List.filter_congr
    intro entry _
    by_cases own : entry.1 = name <;> simp [own]
  rw [withoutField, same]
  rfl

end Node

/-! What each extension decides about a node, apart from the node itself. -/

namespace VisibleIf

def decision (scope : Scope) (node : Node) : Except Fault (Option Rewriting) :=
  match node.field? field with
  | none => .ok (some {})
  | some condition => do
      let value ← scope.valueOf condition
      return if isVisible value then some {} else none

theorem apply_eq (scope : Scope) (node : Node) :
    apply scope node = node.verdict [field] <$> decision scope node := by
  unfold apply decision
  cases found : node.field? field with
  | none =>
      change Except.ok (Verdict.proceed node) =
        Except.ok (Verdict.proceed (node.rewritten [field] {}))
      rw [Node.rewritten_of_field?_eq_none found]
  | some condition =>
      simp only [Node.withoutField_eq, map_bind, map_pure, apply_ite (node.verdict [field])]
      rfl

theorem decision_congr {node other : Node} (same : other.field? field = node.field? field)
    (scope : Scope) : decision scope other = decision scope node := by
  rw [decision, decision, same]

end VisibleIf

namespace ClassShortcut

def fields : List String := ["class", "__class", "==class", "classList"]

def decision (transform : Option String) (scope : Scope) (node : Node) :
    Except Fault (Option Rewriting) := do
  let found ← classes scope node
  if found.isEmpty then return some {}
  else
    let expanded ← expand scope transform (String.intercalate " " found)
    return some { classes := if expanded = "" then none else some expanded }

theorem withoutFields_eq (node : Node) : withoutFields node = node.rewritten fields {} := by
  simp only [withoutFields, Node.withoutField_eq, Node.rewritten_rewritten]
  rfl

theorem apply_eq (transform : Option String) (scope : Scope) (node : Node) :
    apply transform scope node = node.verdict fields <$> decision transform scope node := by
  unfold apply decision
  rw [withoutFields_eq]
  cases classes scope node with
  | error fault => rfl
  | ok found =>
      change (if found.isEmpty then _ else _) = node.verdict fields <$>
        (if found.isEmpty then _ else _)
      split
      · rfl
      · cases expand scope transform (String.intercalate " " found) with
        | error fault => rfl
        | ok expanded =>
            by_cases empty : expanded = ""
            · subst empty
              rfl
            · change (if expanded = "" then _ else _) = Except.ok (node.verdict fields
                (some { classes := if expanded = "" then none else some expanded }))
              rw [if_neg empty, if_neg empty]
              rfl

theorem classes_congr {node other : Node}
    (same : ∀ name ∈ fields, other.field? name = node.field? name) (scope : Scope) :
    classes scope other = classes scope node := by
  unfold classes
  rw [same "class" (by decide), same "__class" (by decide), same "==class" (by decide),
    same "classList" (by decide)]

theorem decision_congr {node other : Node}
    (same : ∀ name ∈ fields, other.field? name = node.field? name) (transform : Option String)
    (scope : Scope) : decision transform scope other = decision transform scope node := by
  rw [decision, decision, classes_congr same]

theorem classes_of_absent {node : Node} (absent : ∀ name ∈ fields, node.field? name = none)
    (scope : Scope) : classes scope node = .ok [] := by
  unfold classes
  rw [absent "class" (by decide), absent "__class" (by decide), absent "==class" (by decide),
    absent "classList" (by decide)]
  rfl

end ClassShortcut

namespace Foreach

def decision (scope : Scope) (node : Node) : Except Fault (Option Rewriting) :=
  match node.field? field with
  | none => .ok (some {})
  | some declaration => do
      let (source, body) ← parts declaration
      let value ← scope.valueOf source
      let found ← items source value
      let fragment ← template body
      let contents ← found.mapM fun item => scope.renderWithProps fragment (itemProps item)
      return some { content := some (String.join contents) }

theorem apply_eq (scope : Scope) (node : Node) :
    apply scope node = node.verdict [field] <$> decision scope node := by
  unfold apply decision
  cases found : node.field? field with
  | none =>
      change Except.ok (Verdict.proceed node) =
        Except.ok (Verdict.proceed (node.rewritten [field] {}))
      rw [Node.rewritten_of_field?_eq_none found]
  | some declaration =>
      have written (content : String) : (node.withoutField field).withText content =
          node.rewritten [field] { content := some content } := by
        rw [Node.withoutField_eq]
        rfl
      simp only [written, map_bind, map_pure]
      rfl

theorem decision_congr {node other : Node} (same : other.field? field = node.field? field)
    (scope : Scope) : decision scope other = decision scope node := by
  rw [decision, decision, same]

end Foreach

namespace Extension

def owned : Extension → List String
  | .visibleIf => [VisibleIf.field]
  | .classShortcut _ => ClassShortcut.fields
  | .foreach => [Foreach.field]
  | .custom _ _ => []

def decision (scope : Scope) (node : Node) : Extension → Except Fault (Option Rewriting)
  | .visibleIf => VisibleIf.decision scope node
  | .classShortcut transform => ClassShortcut.decision transform scope node
  | .foreach => Foreach.decision scope node
  | .custom _ _ => .ok (some {})

/-- The chain of the library, with a transform of classes or without. -/
def canonicalWith (transform : Option String) : List Extension :=
  [.visibleIf, .classShortcut transform, .foreach]

example : canonicalWith none = canonical := rfl

theorem isCanonical_canonicalWith (transform : Option String) :
    ∀ extension ∈ canonicalWith transform, extension.IsCanonical := by
  simp [canonicalWith, IsCanonical]

variable {extension : Extension} {node other : Node}

theorem apply_eq (canonical : extension.IsCanonical) (scope : Scope) (node : Node) :
    extension.apply scope node = node.verdict extension.owned <$> extension.decision scope node := by
  cases extension with
  | visibleIf => exact VisibleIf.apply_eq scope node
  | classShortcut transform => exact ClassShortcut.apply_eq transform scope node
  | foreach => exact Foreach.apply_eq scope node
  | custom name change => exact False.elim canonical

theorem decision_congr (same : ∀ name ∈ extension.owned, other.field? name = node.field? name)
    (scope : Scope) : extension.decision scope other = extension.decision scope node := by
  cases extension with
  | visibleIf => exact VisibleIf.decision_congr (same _ (List.mem_singleton_self _)) scope
  | classShortcut transform => exact ClassShortcut.decision_congr same transform scope
  | foreach => exact Foreach.decision_congr (same _ (List.mem_singleton_self _)) scope
  | custom name change => rfl

theorem decision_of_absent (absent : ∀ name ∈ extension.owned, node.field? name = none)
    (scope : Scope) : extension.decision scope node = .ok (some {}) := by
  cases extension with
  | visibleIf => simp only [decision, VisibleIf.decision, absent _ (List.mem_singleton_self _)]
  | classShortcut transform =>
      rw [decision, ClassShortcut.decision, ClassShortcut.classes_of_absent absent]
      rfl
  | foreach => simp only [decision, Foreach.decision, absent _ (List.mem_singleton_self _)]
  | custom name change => rfl

theorem apply_of_absent (canonical : extension.IsCanonical)
    (absent : ∀ name ∈ extension.owned, node.field? name = none) (scope : Scope) :
    extension.apply scope node = .ok (.proceed node) := by
  rw [apply_eq canonical, decision_of_absent absent]
  change Except.ok (Verdict.proceed (node.rewritten extension.owned {})) = _
  rw [Node.rewritten_of_absent absent]

theorem applyAll_cons_eq_proceed_iff {scope : Scope} {rest : List Extension} {changed : Node} :
    applyAll scope (extension :: rest) node = .ok (.proceed changed) ↔
      ∃ next, extension.apply scope node = .ok (.proceed next) ∧
        applyAll scope rest next = .ok (.proceed changed) := by
  constructor
  · intro applied
    obtain ⟨verdict, own, applied⟩ := exists_of_bind_eq_ok applied
    cases verdict with
    | proceed next => exact ⟨next, own, applied⟩
    | stop => cases applied
  · rintro ⟨next, own, applied⟩
    rw [applyAll, own]
    exact applied

theorem applyAll_of_acts {extensions : List Extension} {scope : Scope}
    (acts : ∀ extension ∈ extensions, extension.apply scope node = .ok (.proceed node)) :
    applyAll scope extensions node = .ok (.proceed node) := by
  induction extensions with
  | nil => rfl
  | cons first rest ih =>
      obtain ⟨own, others⟩ := List.forall_mem_cons.mp acts
      exact applyAll_cons_eq_proceed_iff.mpr ⟨node, own, ih others⟩

end Extension

end MarkupTree
