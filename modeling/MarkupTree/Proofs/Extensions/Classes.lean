import Mathlib
import MarkupTree.Proofs.Bindings.Places
import MarkupTree.Proofs.Extensions.Declarations
import MarkupTree.Proofs.Extensions.Ownership

/-!
The classes that a node gathers from four fields. They become one attribute, in the place of the
first attribute called `class`, and whatever this was before, the other attributes do not notice.
-/

namespace MarkupTree

namespace ClassShortcut

variable {scope : Scope} {node : Node}

def isClass : Value → Bool
  | .null | .bool false => false
  | _ => true

def said (found : Option Value) : List String := (found.toList.filter isClass).map Value.display

def holds (scope : Scope) (condition : Value) : Bool :=
  Operand.isTruthy (scope.valueOf condition).toOption.join

def holding (scope : Scope) (conditions : Fields Value) : List String :=
  (conditions.filter fun entry => holds scope entry.2).map Prod.fst

def saidPlainly (scope : Scope) : Option Value → List String
  | some (.object conditions) => holding scope conditions
  | declared => said declared

def saidByPath (scope : Scope) : Option Value → List String
  | some (.string path) => said (scope.lookup path)
  | _ => []

def saidByExpression (scope : Scope) : Option Value → List String
  | some (.string source) => said (scope.evaluateSoft source).toOption.join
  | _ => []

def saidByList (scope : Scope) : Option Value → List String
  | some (.object conditions) => holding scope conditions
  | _ => []

/-- The classes of a node: all that its fields say and that is not empty. -/
def contributed (scope : Scope) (node : Node) : List String :=
  (saidPlainly scope (node.field? "class") ++ saidByPath scope (node.field? "__class") ++
    saidByExpression scope (node.field? "==class") ++
    saidByList scope (node.field? "classList")).filter (· ≠ "")

/-- Whatever a node asks for its classes comes to a result. -/
structure Answered (scope : Scope) (node : Node) : Prop where
  conditions : ∀ name ∈ ["class", "classList"], ∀ conditions,
    node.field? name = some (.object conditions) →
      ∀ entry ∈ conditions, ∃ value, scope.Yields entry.2 (.ok value)
  expression : ∀ source, node.field? "==class" = some (.string source) →
    ∃ value, scope.evaluateSoft source = .ok value

theorem toList_className (value : Value) : (className value).toList = said (some value) := by
  unfold className
  split
  · rfl
  · rfl
  · rename_i notNull notFalse
    have held : isClass value = true := by
      unfold isClass
      split <;> trivial
    simp [said, held]

theorem toList_bind_className (found : Option Value) :
    (found.bind className).toList = said found := by
  cases found with
  | none => rfl
  | some value => exact toList_className value

theorem conditional_eq_holding {conditions : Fields Value}
    (answered : ∀ entry ∈ conditions, ∃ value, scope.Yields entry.2 (.ok value)) :
    conditional scope conditions = .ok (holding scope conditions) := by
  induction conditions with
  | nil => rfl
  | cons entry rest ih =>
      obtain ⟨name, condition⟩ := entry
      obtain ⟨⟨value, yields⟩, others⟩ := List.forall_mem_cons.mp answered
      have given : scope.valueOf condition = .ok value := Scope.yields_iff.mp yields
      have held : holds scope condition = Operand.isTruthy value := by
        rw [holds, given]
        rfl
      have names : holding scope ((name, condition) :: rest) =
          if Operand.isTruthy value then name :: holding scope rest else holding scope rest := by
        rw [holding, List.filter_cons, held]
        split <;> rfl
      rw [conditional, given, ih others, names]
      rfl

theorem ofPlain_eq (answered : Answered scope node) :
    ofPlain scope (node.field? "class") = .ok (saidPlainly scope (node.field? "class")) := by
  cases declared : node.field? "class" with
  | none => rfl
  | some value =>
      cases value with
      | object conditions =>
          exact conditional_eq_holding (answered.conditions _ (by simp) conditions declared)
      | _ => exact congrArg Except.ok (toList_className _)

theorem ofPath_eq (scope : Scope) (declared : Option Value) :
    ofPath scope declared = saidByPath scope declared := by
  cases declared with
  | none => rfl
  | some value =>
      cases value with
      | string path => exact toList_bind_className (scope.lookup path)
      | _ => rfl

theorem ofExpression_eq (answered : Answered scope node) :
    ofExpression scope (node.field? "==class") =
      .ok (saidByExpression scope (node.field? "==class")) := by
  cases declared : node.field? "==class" with
  | none => rfl
  | some value =>
      cases value with
      | string source =>
          obtain ⟨found, evaluated⟩ := answered.expression source declared
          rw [ofExpression, saidByExpression, evaluated]
          exact congrArg Except.ok (toList_bind_className found)
      | _ => rfl

theorem ofList_eq (answered : Answered scope node) :
    ofList scope (node.field? "classList") = .ok (saidByList scope (node.field? "classList")) := by
  cases declared : node.field? "classList" with
  | none => rfl
  | some value =>
      cases value with
      | object conditions =>
          exact conditional_eq_holding (answered.conditions _ (by simp) conditions declared)
      | _ => rfl

theorem classes_eq (answered : Answered scope node) :
    classes scope node = .ok (contributed scope node) := by
  rw [classes, ofPlain_eq answered, ofPath_eq, ofExpression_eq answered, ofList_eq answered]
  rfl

theorem ne_empty_of_mem_contributed {word : String} (member : word ∈ contributed scope node) :
    word ≠ "" := of_decide_eq_true (List.mem_filter.mp member).2

theorem intercalate_ne_empty {separator : String} {words : List String} (found : words ≠ [])
    (filled : ∀ word ∈ words, word ≠ "") : String.intercalate separator words ≠ "" := by
  obtain ⟨first, others, rfl⟩ := List.exists_cons_of_ne_nil found
  have solid : first ≠ "" := filled first List.mem_cons_self
  cases others with
  | nil => rwa [String.intercalate_singleton]
  | cons second rest =>
      rw [String.intercalate_cons_cons]
      simp [solid]

theorem apply_of_empty (answered : Answered scope node) (empty : contributed scope node = []) :
    apply none scope node = .ok (.proceed (withoutFields node)) := by
  rw [apply, classes_eq answered, empty]
  rfl

theorem apply_of_found (answered : Answered scope node) (found : contributed scope node ≠ []) :
    apply none scope node = .ok (.proceed ((withoutFields node).setAttribute "class"
      (.string (String.intercalate " " (contributed scope node))))) := by
  have listed : (contributed scope node).isEmpty = false := List.isEmpty_eq_false_iff.mpr found
  -- An empty text would not be written, but the classes are never joined to one.
  have written : String.intercalate " " (contributed scope node) ≠ "" :=
    intercalate_ne_empty found fun _ => ne_empty_of_mem_contributed
  simp only [apply, classes_eq answered, expand, bind, Except.bind, listed, written]
  rfl

/--
The classes of a node are gathered in the order of its fields. Without any the attributes are left
as they are. Otherwise, wherever the attributes resolve, they do so afterwards, with the classes,
joined by blanks, in the place of the first attribute called `class` or behind all others, and
without any other change.
-/
theorem apply_gathers (answered : Answered scope node) :
    ∃ changed, (Extension.classShortcut none).apply scope node = .ok (.proceed changed) ∧
      (contributed scope node = [] → changed.attributes = node.attributes) ∧
      (contributed scope node ≠ [] → ∀ seen fields,
        Bindings.resolveOptional seen node.attributes = .ok fields →
        ∃ earlier later,
          Bindings.IsPlaced seen (node.attributes.getD []) "class" earlier later ∧
          Bindings.resolveOptional seen changed.attributes = .ok (earlier ++
            ("class", .string (String.intercalate " " (contributed scope node))) :: later) ∧
          Fields.erase fields "class" = earlier ++ later) := by
  by_cases found : contributed scope node = []
  · refine ⟨withoutFields node, apply_of_empty answered found, fun _ => rfl, ?_⟩
    exact fun others => absurd found others
  · refine ⟨_, apply_of_found answered found, fun empty => absurd empty found, ?_⟩
    intro _ seen fields resolved
    have given : Bindings.resolve seen (node.attributes.getD []) = .ok fields := by
      rw [← resolved]
      cases node.attributes <;> rfl
    have solid : Value.string (String.intercalate " " (contributed scope node)) ≠ .null := nofun
    exact Bindings.exists_resolve_set given solid "class"

def styled : Node where
  attributes := some Bindings.repeatedNames
  fields := [("classList", .object [("last", .bool true), ("gone", .string "title.missing")]),
    ("==class", .string "empty || title"), ("__class", .string "title"),
    ("class", .object [("gone", .string "empty"), ("first", .string "title")])]

theorem styled_gathers :
    Answered Bindings.titledScope styled ∧
    contributed Bindings.titledScope styled = ["first", "Site", "Site", "last"] ∧
    Bindings.resolveOptional Bindings.titledScope styled.attributes =
      .ok [("alt", .string ""), ("class", .string "Site")] ∧
    ∃ changed,
      (Extension.classShortcut none).apply Bindings.titledScope styled = .ok (.proceed changed) ∧
      Bindings.resolveOptional Bindings.titledScope changed.attributes =
        .ok [("class", .string "first Site Site last"), ("alt", .string "")] := by
  let scope := Bindings.titledScope
  have empty : scope.Yields (.string "empty") (.ok (some (.string ""))) :=
    Scope.yields_iff.mpr (by cbv)
  have title : scope.Yields (.string "title") (.ok (some (.string "Site"))) :=
    Scope.yields_iff.mpr (by cbv)
  have missing : scope.Yields (.string "title.missing") (.ok none) := Scope.yields_iff.mpr (by cbv)
  have always : scope.Yields (.bool true) (.ok (some (.bool true))) :=
    .plain (by rintro source ⟨⟩) rfl
  have answered : Answered scope styled := {
    conditions := by
      intro name lists conditions declared
      rcases List.mem_pair.mp lists with rfl | rfl
      · cases declared
        exact List.forall_mem_cons.mpr ⟨⟨_, empty⟩, List.forall_mem_singleton.mpr ⟨_, title⟩⟩
      · cases declared
        exact List.forall_mem_cons.mpr ⟨⟨_, always⟩, List.forall_mem_singleton.mpr ⟨_, missing⟩⟩
    expression := by
      rintro source ⟨⟩
      exact ⟨some (.string "Site"), by cbv⟩ }
  have classes : contributed Bindings.titledScope styled = ["first", "Site", "Site", "last"] := by
    cbv
  have resolved : Bindings.resolveOptional Bindings.titledScope styled.attributes =
      .ok [("alt", .string ""), ("class", .string "Site")] := by cbv
  obtain ⟨changed, applied, -, gathers⟩ := apply_gathers answered
  rw [classes] at gathers
  obtain ⟨earlier, later, placed, altered, others⟩ := gathers (List.cons_ne_nil _ _) _ _ resolved
  have first : earlier = [] := by
    obtain ⟨given, ahead, names⟩ := placed.behind
    cases ahead
    exact List.map_eq_nil_iff.mp names
  subst first
  refine ⟨answered, classes, resolved, changed, applied, ?_⟩
  rw [altered, ← show [("alt", Value.string "")] = later from others]
  rfl

end ClassShortcut

end MarkupTree
