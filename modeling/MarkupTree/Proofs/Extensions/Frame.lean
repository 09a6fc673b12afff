import MarkupTree.Proofs.Extensions.Ownership
import MarkupTree.Proofs.Rendering.NodeSteps

/-!
What the extensions of the library may touch: each takes its own fields, the class shortcut writes
the class and an iteration the content. A chain of them finds nothing more to do in what it has left.
-/

namespace MarkupTree

structure Rewriting.Warranted (rewriting : Rewriting) (node : Node) (taken : List String) :
    Prop where
  classes : rewriting.classes ≠ none →
    "class" ∈ taken ∧ ∃ name ∈ ClassShortcut.fields, node.field? name ≠ none
  content : rewriting.content ≠ none →
    Foreach.field ∈ taken ∧ node.field? Foreach.field ≠ none

namespace Rewriting.Warranted

variable {first second : Rewriting} {node : Node} {taken others : List String}

theorem empty (node : Node) (taken : List String) : Warranted {} node taken :=
  ⟨fun new => absurd rfl new, fun new => absurd rfl new⟩

theorem field?_ne_none {name : String}
    (held : (node.rewritten taken first).field? name ≠ none) : node.field? name ≠ none := by
  intro absent
  rw [Node.field?_rewritten, absent, ite_self] at held
  exact held rfl

theorem andThen (own : first.Warranted node taken)
    (later : second.Warranted (node.rewritten taken first) others) :
    (first.andThen second).Warranted node (taken ++ others) := by
  constructor
  · intro new
    rcases not_and_or.mp (mt Option.or_eq_none_iff.mpr new) with written | given
    · obtain ⟨member, name, declared, held⟩ := later.classes written
      exact ⟨List.mem_append_right taken member, name, declared, field?_ne_none held⟩
    · obtain ⟨member, source⟩ := own.classes given
      exact ⟨List.mem_append_left others member, source⟩
  · intro new
    rcases not_and_or.mp (mt Option.or_eq_none_iff.mpr new) with written | given
    · obtain ⟨member, held⟩ := later.content written
      exact ⟨List.mem_append_right taken member, field?_ne_none held⟩
    · obtain ⟨member, source⟩ := own.content given
      exact ⟨List.mem_append_left others member, source⟩

end Rewriting.Warranted

section Decisions

variable {scope : Scope} {node : Node} {found : Option Rewriting}

theorem VisibleIf.eq_of_decision (decided : decision scope node = .ok found) :
    found = none ∨ found = some {} := by
  unfold decision at decided
  split at decided
  · cases decided
    exact .inr rfl
  · obtain ⟨value, _, decided⟩ := exists_of_bind_eq_ok decided
    split at decided
    · cases decided
      exact .inr rfl
    · cases decided
      exact .inl rfl

theorem ClassShortcut.exists_of_decision {transform : Option String}
    (decided : decision transform scope node = .ok found) :
    ∃ rewriting, found = some rewriting ∧ rewriting.Warranted node fields := by
  obtain ⟨gathered, given, decided⟩ := exists_of_bind_eq_ok decided
  split at decided
  · cases decided
    exact ⟨{}, rfl, .empty node fields⟩
  · rename_i filled
    obtain ⟨expanded, _, decided⟩ := exists_of_bind_eq_ok decided
    have written : ∃ name ∈ fields, node.field? name ≠ none := by
      by_contra missing
      push Not at missing
      rw [classes_of_absent missing] at given
      cases given
      exact filled rfl
    cases decided
    exact ⟨_, rfl, fun _ => ⟨by decide, written⟩, fun new => absurd rfl new⟩

theorem Foreach.exists_of_decision (decided : decision scope node = .ok found) :
    ∃ rewriting, found = some rewriting ∧ rewriting.Warranted node [field] := by
  unfold decision at decided
  split at decided
  · cases decided
    exact ⟨{}, rfl, .empty node [field]⟩
  · rename_i declaration declared
    obtain ⟨⟨source, body⟩, _, decided⟩ := exists_of_bind_eq_ok decided
    obtain ⟨value, _, decided⟩ := exists_of_bind_eq_ok decided
    obtain ⟨items, _, decided⟩ := exists_of_bind_eq_ok decided
    obtain ⟨fragment, _, decided⟩ := exists_of_bind_eq_ok decided
    obtain ⟨contents, _, decided⟩ := exists_of_bind_eq_ok decided
    have held : node.field? field ≠ none := by
      rw [declared]
      exact Option.some_ne_none declaration
    cases decided
    exact ⟨_, rfl, fun new => absurd rfl new, fun _ => ⟨List.mem_singleton_self field, held⟩⟩

end Decisions

namespace Extension

variable {extension : Extension} {extensions : List Extension} {scope : Scope}
  {node changed : Node}

theorem decision_cases {found : Option Rewriting}
    (decided : extension.decision scope node = .ok found) :
    found = none ∧ extension = .visibleIf ∨
      ∃ rewriting, found = some rewriting ∧ rewriting.Warranted node extension.owned := by
  cases extension with
  | visibleIf =>
      rcases VisibleIf.eq_of_decision decided with stops | goes
      · exact .inl ⟨stops, rfl⟩
      · exact .inr ⟨{}, goes, .empty node [VisibleIf.field]⟩
  | classShortcut transform => exact .inr (ClassShortcut.exists_of_decision decided)
  | foreach => exact .inr (Foreach.exists_of_decision decided)
  | custom name change =>
      cases decided
      exact .inr ⟨{}, rfl, .empty node []⟩

theorem exists_of_apply_eq_proceed (canonical : extension.IsCanonical)
    (applied : extension.apply scope node = .ok (.proceed changed)) :
    ∃ rewriting, extension.decision scope node = .ok (some rewriting) ∧
      changed = node.rewritten extension.owned rewriting ∧
      rewriting.Warranted node extension.owned := by
  rw [apply_eq canonical] at applied
  cases decided : extension.decision scope node with
  | error fault =>
      rw [decided] at applied
      cases applied
  | ok found =>
      rw [decided] at applied
      rcases decision_cases decided with ⟨rfl, _⟩ | ⟨rewriting, rfl, warranted⟩
      · cases applied
      · cases applied
        exact ⟨rewriting, rfl, rfl, warranted⟩

/-- So a chain does no more to a node than to take its fields and to write what these warrant. -/
theorem exists_of_applyAll_eq_proceed
    (canonical : ∀ extension ∈ extensions, extension.IsCanonical)
    (applied : applyAll scope extensions node = .ok (.proceed changed)) :
    ∃ rewriting, changed = node.rewritten (extensions.flatMap owned) rewriting ∧
      rewriting.Warranted node (extensions.flatMap owned) := by
  -- What later extensions find is warranted by the first node, too: a field that they find in what
  -- earlier ones have left was there from the start.
  induction extensions generalizing node with
  | nil =>
      cases applied
      have untouched : changed.rewritten [] {} = changed :=
        Node.rewritten_of_absent fun name own => absurd own List.not_mem_nil
      exact ⟨{}, untouched.symm, .empty changed []⟩
  | cons first rest ih =>
      obtain ⟨own, others⟩ := List.forall_mem_cons.mp canonical
      obtain ⟨next, step, applied⟩ := applyAll_cons_eq_proceed_iff.mp applied
      obtain ⟨rewriting, _, rfl, warranted⟩ := exists_of_apply_eq_proceed own step
      obtain ⟨later, rfl, further⟩ := ih others applied
      refine ⟨rewriting.andThen later, ?_, warranted.andThen further⟩
      exact Node.rewritten_rewritten node first.owned _ rewriting later

theorem steps_of_absent (absent : ∀ name ∈ extension.owned, node.field? name = none)
    (scope : Scope) : extension.steps scope node = [.extension extension] := by
  cases extension with
  | visibleIf =>
      have own : node.field? VisibleIf.field = none := absent _ (List.mem_singleton_self _)
      simp only [steps, VisibleIf.steps, own]
  | classShortcut transform =>
      have missing : ∀ name ∈ ClassShortcut.fields, node.field? name = none := absent
      have none_asked : ClassShortcut.classesSteps scope node = [] := by
        unfold ClassShortcut.classesSteps
        rw [missing "class" (by decide), missing "==class" (by decide),
          missing "classList" (by decide)]
        rfl
      rw [steps, ClassShortcut.steps, none_asked, ClassShortcut.classes_of_absent missing]
      rfl
  | foreach =>
      have own : node.field? Foreach.field = none := absent _ (List.mem_singleton_self _)
      simp only [steps, Foreach.steps, own]
  | custom name change => rfl

theorem chain_of_absent (canonical : ∀ extension ∈ extensions, extension.IsCanonical)
    (absent : ∀ name ∈ extensions.flatMap owned, node.field? name = none) (scope : Scope) :
    applyAll scope extensions node = .ok (.proceed node) ∧
      chainSteps scope extensions node = extensions.map .extension := by
  have acts : ∀ extension ∈ extensions, extension.apply scope node = .ok (.proceed node) := by
    intro extension present
    apply apply_of_absent (canonical extension present)
    intro name own
    exact absent name (List.mem_flatMap.mpr ⟨extension, present, own⟩)
  refine ⟨applyAll_of_acts acts, ?_⟩
  induction extensions with
  | nil => rfl
  | cons first rest ih =>
      obtain ⟨own, others⟩ := List.forall_mem_cons.mp acts
      rw [List.flatMap_cons, List.forall_mem_append] at absent
      have further := ih (List.forall_mem_cons.mp canonical).2 absent.2 others
      rw [chainSteps, steps_of_absent absent.1, own, List.map_cons, ← further]
      rfl

end Extension

/-- The second node is the first without some fields. Its content is new only where the first has an
iteration, and its attributes only in the class and where the first has a field for it. -/
structure Node.Framed (taken : List String) (node changed : Node) : Prop where
  element : changed.element = node.element
  elementPath : changed.elementPath = node.elementPath
  props : changed.props = node.props
  childrenPath : changed.childrenPath = node.childrenPath
  childrenExpression : changed.childrenExpression = node.childrenExpression
  closing : changed.closing = node.closing
  fields : changed.fields = node.fields.filter fun entry => entry.1 ∉ taken
  children : changed.children = node.children ∨
    node.field? "foreach" ≠ none ∧ ∃ content, changed.children = some (.text content)
  attributes : changed.attributes = node.attributes ∨
    (∃ name ∈ ["class", "__class", "==class", "classList"], node.field? name ≠ none) ∧
      ∃ classes, changed.attributes =
        some (Bindings.set (node.attributes.getD []) "class" (.literal (.string classes)))
  others : Bindings.without (changed.attributes.getD []) "class" =
    Bindings.without (node.attributes.getD []) "class"

theorem Rewriting.Warranted.framed {rewriting : Rewriting} {node : Node} {taken : List String}
    (warranted : rewriting.Warranted node taken) :
    node.Framed taken (node.rewritten taken rewriting) := by
  obtain ⟨classes, content⟩ := rewriting
  constructor
  case element | elementPath | props | childrenPath | childrenExpression | closing | fields => rfl
  case children =>
    cases content with
    | none => exact .inl rfl
    | some content =>
        obtain ⟨_, declared⟩ := warranted.content (Option.some_ne_none content)
        exact .inr ⟨declared, content, rfl⟩
  case attributes =>
    cases classes with
    | none => exact .inl rfl
    | some classes =>
        obtain ⟨_, declared⟩ := warranted.classes (Option.some_ne_none classes)
        exact .inr ⟨declared, classes, rfl⟩
  case others =>
    cases classes with
    | none => rfl
    | some classes => exact Bindings.without_set _ "class" _

namespace Extension

/--
The chain of visibility, classes and iteration, with a transform of classes or without, touches only
what it owns. It has nothing to do a second time: in any scope it leaves what it has let pass as it
is, and evaluates nothing there.
-/
theorem applyAll_framed {transform : Option String} {scope : Scope} {node changed : Node}
    (applied : applyAll scope (canonicalWith transform) node = .ok (.proceed changed)) :
    node.Framed ["visibleIf", "class", "__class", "==class", "classList", "foreach"] changed ∧
    ∀ again : Scope,
      applyAll again (canonicalWith transform) changed = .ok (.proceed changed) ∧
      chainSteps again (canonicalWith transform) changed =
        (canonicalWith transform).map .extension := by
  have canonical := isCanonical_canonicalWith transform
  obtain ⟨rewriting, rfl, warranted⟩ := exists_of_applyAll_eq_proceed canonical applied
  refine ⟨warranted.framed, ?_⟩
  intro again
  apply chain_of_absent canonical
  intro name own
  rw [Node.field?_rewritten, if_pos own]

end Extension

def Scope.ofItems : Scope := { Bindings.titledScope with deeper := fun _ _ => .ok "item" }

def Node.crowdedItem : Node where
  element := some "li"
  attributes := some [("class", .path "title"), ("id", .literal (.string "x")),
    ("class", .literal (.string "old"))]
  children := some (.text "old")
  fields := [("visibleIf", .bool true), ("note", .string "kept"), ("__class", .string "title"),
    ("foreach", .array [.array [.bool true, .null], .object [("children", .string "t")]])]

def Node.clearedItem : Node where
  element := some "li"
  attributes := some [("class", .literal (.string "Site")), ("id", .literal (.string "x"))]
  children := some (.text "itemitem")
  fields := [("note", .string "kept")]

namespace Extension

theorem crowdedItem_framed :
    applyAll .ofItems (canonicalWith none) .crowdedItem = .ok (.proceed .clearedItem) ∧
    Node.crowdedItem.Framed ["visibleIf", "class", "__class", "==class", "classList", "foreach"]
      .clearedItem ∧
    ∀ again : Scope,
      applyAll again (canonicalWith none) .clearedItem = .ok (.proceed .clearedItem) ∧
      chainSteps again (canonicalWith none) .clearedItem =
        [.extension .visibleIf, .extension (.classShortcut none), .extension .foreach] := by
  have applied : applyAll .ofItems (canonicalWith none) .crowdedItem =
      .ok (.proceed .clearedItem) := by cbv
  exact ⟨applied, applyAll_framed applied⟩

end Extension

end MarkupTree
