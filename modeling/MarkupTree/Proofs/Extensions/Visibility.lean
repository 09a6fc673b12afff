import Mathlib
import MarkupTree.Proofs.Extensions.Declarations
import MarkupTree.Proofs.Extensions.Ownership

/-!
Nodes under a condition. A chain that starts with the visibility decides on the condition before it
looks at anything else of a node: a hidden node is nothing, whatever else it says, and a visible one
is the node without its condition.
-/

namespace MarkupTree

namespace VisibleIf

/-- Results of a condition that hide a node: none at all, a value that does not hold, and the empty
array, which holds everywhere else. -/
inductive Hides : Option Value → Prop
  | absent : Hides none
  | falsy {value : Value} (falsy : value.isTruthy = false) : Hides (some value)
  | emptyArray : Hides (some (.array []))

theorem isVisible_iff {value : Option Value} : isVisible value = true ↔ ¬ Hides value := by
  constructor
  · rintro visible (_ | falsy | _)
    · cases visible
    · rename_i value
      cases value <;> simp_all [isVisible, Value.isBlank, Value.isTruthy]
    · cases visible
  · intro shown
    cases value with
    | none => exact absurd .absent shown
    | some value =>
        have truthy : value.isTruthy = true := by
          by_contra falsy
          exact shown (.falsy (Bool.eq_false_of_not_eq_true falsy))
        cases value with
        | array items =>
            cases items with
            | nil => exact absurd .emptyArray shown
            | cons item rest => rfl
        | _ => simp [isVisible, Value.isBlank, truthy]

variable {scope : Scope} {node : Node} {condition : Value} {value : Option Value}

theorem apply_of_hidden (declared : node.field? field = some condition)
    (given : scope.valueOf condition = .ok value) (hides : Hides value) :
    apply scope node = .ok .stop := by
  have hidden : isVisible value = false :=
    Bool.eq_false_of_not_eq_true fun visible => isVisible_iff.mp visible hides
  unfold apply
  rw [declared]
  simp only [given, bind, Except.bind, hidden]
  rfl

theorem apply_of_visible (declared : node.field? field = some condition)
    (given : scope.valueOf condition = .ok value) (shown : ¬ Hides value) :
    apply scope node = .ok (.proceed (node.withoutField field)) := by
  unfold apply
  rw [declared]
  simp only [given, bind, Except.bind, isVisible_iff.mpr shown]
  rfl

theorem apply_of_fault {fault : Fault} (declared : node.field? field = some condition)
    (failed : scope.valueOf condition = .error fault) : apply scope node = .error fault := by
  unfold apply
  rw [declared]
  simp only [failed, bind, Except.bind]

theorem apply_withoutField (scope : Scope) (node : Node) :
    apply scope (node.withoutField field) = .ok (.proceed (node.withoutField field)) := by
  have absent : (node.withoutField field).field? field = none := by
    rw [Node.withoutField_eq, Node.field?_rewritten, if_pos (List.mem_singleton_self field)]
  rw [apply, absent]

end VisibleIf

namespace Renderer

/-! What the first extension of a chain decides about a node. -/

section

variable {first : Extension} {following : List Extension} {scope : Scope} {node changed : Node}

theorem renderElement_of_stop (stops : first.apply scope node = .ok .stop) :
    renderElement (first :: following) scope node = .ok "" := by
  rw [renderElement, Extension.applyAll, stops]
  rfl

theorem renderElement_of_fault {fault : Fault} (fails : first.apply scope node = .error fault) :
    renderElement (first :: following) scope node = .error fault := by
  rw [renderElement, Extension.applyAll, fails]
  rfl

theorem renderElement_of_settled (proceeds : first.apply scope node = .ok (.proceed changed))
    (settled : first.apply scope changed = .ok (.proceed changed))
    (element : changed.element = node.element) :
    renderElement (first :: following) scope node =
      renderElement (first :: following) scope changed := by
  have passed : Extension.applyAll scope (first :: following) node =
      Extension.applyAll scope (first :: following) changed := by
    rw [Extension.applyAll, Extension.applyAll, proceeds, settled]
  have written (next : Node) :
      resolveElement scope node next = resolveElement scope changed next := by
    rw [resolveElement, resolveElement, element]
  rw [renderElement, renderElement, passed]
  simp only [written]

end

/--
A chain that starts with the visibility renders a node by its condition. A fault of the condition is
the fault of the node. If the condition hides the node, nothing is rendered and nothing else of the
node is looked at, so that nothing else can fail. If not, the node renders as it would without it.
-/
theorem renderNodes_of_condition {renderer : Renderer} {following : List Extension}
    (chain : renderer.extensions = .visibleIf :: following) {depth : Nat}
    (within : depth ≤ renderer.options.maxDepth) {node : Node}
    (itself : renderer.StandsForItself node) {outer props : Value}
    (resolved : nodeProps (renderer.scopeAt depth outer) node = .ok props) {condition : Value}
    (declared : node.field? "visibleIf" = some condition) :
    (∃ result, (renderer.scopeAt depth props).Yields condition result) ∧
    ∀ result, (renderer.scopeAt depth props).Yields condition result →
      (∀ fault, result = .error fault →
        renderer.renderNodes depth [node] outer = .error fault) ∧
      (∀ value, result = .ok value → VisibleIf.Hides value →
        renderer.renderNodes depth [node] outer = .ok "") ∧
      ∀ value, result = .ok value → ¬ VisibleIf.Hides value →
        renderer.renderNodes depth [node] outer =
          renderer.renderNodes depth [node.withoutField "visibleIf"] outer := by
  refine ⟨⟨_, Scope.yields_iff.mpr rfl⟩, ?_⟩
  intro result yields
  have given := Scope.yields_iff.mp yields
  have rendered := itself.renderNodes within resolved
  have bare : renderer.StandsForItself (node.withoutField "visibleIf") := itself
  have renderedBare := bare.renderNodes within resolved
  rw [chain] at rendered renderedBare
  rw [rendered, renderedBare]
  refine ⟨?_, ?_, ?_⟩
  · rintro fault rfl
    exact renderElement_of_fault (VisibleIf.apply_of_fault declared given)
  · rintro value rfl hides
    exact renderElement_of_stop (VisibleIf.apply_of_hidden declared given hides)
  · rintro value rfl shown
    have proceeds := VisibleIf.apply_of_visible declared given shown
    exact renderElement_of_settled proceeds (VisibleIf.apply_withoutField _ node) rfl

def drafts : Renderer where
  extensions := Extension.canonical
  context := .object [("shown", .bool true), ("tags", .array []), ("draft", .string "yes")]

def brokenDraft (condition : Value) : Node where
  element := some "li"
  attributes := some [("title", .call ⟨"spell", []⟩)]
  props := some [("shown", .literal (.bool false))]
  children := some (.nodes [.ofElement "Body"])
  fields := [("class", .object [("new", .object [("utility", .string "spell")])]),
    ("visibleIf", condition), ("foreach", .bool true)]

def draftCondition (condition : Value) : Except Fault (Option Value) :=
  (drafts.scopeAt 0 (.object [("shown", .bool false)])).valueOf condition

theorem draftCondition_own : draftCondition (.string "shown") = .ok (some (.bool false)) := by
  cbv

theorem draftCondition_tags : draftCondition (.string "tags") = .ok (some (.array [])) := by
  cbv

theorem draftCondition_draft : draftCondition (.string "draft") = .ok (some (.string "yes")) := by
  cbv

theorem draftCondition_call : draftCondition (.object [("utility", .string "seen")]) =
    .error (.utilityNotFound "seen") := by
  cbv

theorem renderNodes_brokenDraft :
    drafts.renderNodes 0 [(brokenDraft (.string "draft")).withoutField "visibleIf"] .null =
      .error (.utilityNotFound "spell") := by
  cbv

theorem brokenDraft_under_conditions :
    drafts.extensions = .visibleIf :: [.classShortcut none, .foreach] ∧
    0 ≤ drafts.options.maxDepth ∧
    (∀ condition, drafts.StandsForItself (brokenDraft condition) ∧
      nodeProps (drafts.scopeAt 0 .null) (brokenDraft condition) =
        .ok (.object [("shown", .bool false)]) ∧
      (brokenDraft condition).field? "visibleIf" = some condition) ∧
    drafts.renderNodes 0 [brokenDraft (.string "shown")] .null = .ok "" ∧
    drafts.renderNodes 0 [brokenDraft (.string "tags")] .null = .ok "" ∧
    drafts.renderNodes 0 [brokenDraft (.object [("utility", .string "seen")])] .null =
      .error (.utilityNotFound "seen") ∧
    drafts.renderNodes 0 [brokenDraft (.string "draft")] .null =
      .error (.utilityNotFound "spell") := by
  have lower : isComponentName "li" = false := by cbv
  have itself (condition : Value) : drafts.StandsForItself (brokenDraft condition) := by
    rintro name ⟨⟩
    exact ⟨rfl, lower⟩
  have resolved (condition : Value) :
      nodeProps (drafts.scopeAt 0 .null) (brokenDraft condition) =
        .ok (.object [("shown", .bool false)]) := rfl
  have declared (condition : Value) :
      (brokenDraft condition).field? "visibleIf" = some condition := rfl
  have law {condition : Value} {result : Except Fault (Option Value)}
      (given : draftCondition condition = result) :=
    (renderNodes_of_condition rfl (Nat.zero_le _) (itself condition) (resolved condition)
      (declared condition)).2 result (Scope.yields_iff.mpr given)
  have own := (law draftCondition_own).2.1 _ rfl (.falsy rfl)
  have empty := (law draftCondition_tags).2.1 _ rfl .emptyArray
  have unknown := (law draftCondition_call).1 _ rfl
  have shown : ¬ VisibleIf.Hides (some (.string "yes")) := VisibleIf.isVisible_iff.mp rfl
  have visible := (law draftCondition_draft).2.2 _ rfl shown
  exact ⟨rfl, Nat.zero_le _,
    fun condition => ⟨itself condition, resolved condition, declared condition⟩,
    own, empty, unknown, visible.trans renderNodes_brokenDraft⟩

end Renderer

end MarkupTree
