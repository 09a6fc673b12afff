import Mathlib
import MarkupTree.Concurrent.Renderer
import MarkupTree.Proofs.Concurrent.Joins
import MarkupTree.Proofs.Extensions.Ownership

/-!
Nodes that repeat a template. The content for each item depends on the renderer, the depth, the
template and the item alone; a node puts the contents for its items one behind the other into its
element, and the first fault among those that have come when the wait for them ends is its own.
-/

namespace MarkupTree

namespace Foreach

inductive Lists : Option Value → List Value → Prop
  | undefined : Lists none []
  | null : Lists (some .null) []
  | array (found : List Value) : Lists (some (.array found)) found

theorem Lists.items_eq {value : Option Value} {found : List Value} (lists : Lists value found)
    (source : Value) : items source value = .ok found := by
  cases lists <;> rfl

def fieldsOf (item : Value) : Fields Value := item.asObject?.getD []

/-- What a template sees for an item: the fields of the item, and the item itself as `value`, in the
place of a field of this name or behind them all. -/
structure IsItemProps (item : Value) (given : Fields Value) : Prop where
  value : Fields.find? given "value" = some item
  others : ∀ name, name ≠ "value" → Fields.find? given name = Fields.find? (fieldsOf item) name
  names : Fields.names given =
    if "value" ∈ Fields.names (fieldsOf item) then Fields.names (fieldsOf item)
    else Fields.names (fieldsOf item) ++ ["value"]

theorem exists_itemProps (item : Value) :
    ∃ given, itemProps item = .object given ∧ IsItemProps item given := by
  refine ⟨Fields.insert (fieldsOf item) "value" item, ?_, ?_⟩
  · cases item <;> rfl
  · exact {
      value := Fields.find?_insert_self _ _ _
      others := fun name differ => Fields.find?_insert_of_ne differ _ _
      names := Fields.names_insert _ _ _ }

end Foreach

/-- The element of a node in a scope: what is found at its path, if it holds, and else its own. -/
def Node.elementIn (scope : Scope) (node : Node) : Option String :=
  (((node.elementPath.bind scope.lookup).filter Value.isTruthy).map Value.display).or node.element

theorem resolveElement_eq_elementIn {written changed : Node}
    (element : changed.element = written.element) (scope : Scope) :
    resolveElement scope written changed = changed.elementIn scope := by
  unfold resolveElement Node.elementIn
  rw [if_neg (not_not_intro element)]
  cases changed.elementPath.bind scope.lookup with
  | none => rfl
  | some value => by_cases truthy : value.isTruthy <;> simp [Option.filter, truthy]

namespace Concurrent

variable {scope : Scope} {node : Node}

theorem Foreach.outcome_apply_of_declared {source body : Value}
    (declared : node.field? Foreach.field = some (.array [source, body])) {value : Option Value}
    (given : (scope.valueOf source).outcome = .ok value) {found : List Value}
    (lists : Foreach.Lists value found) {fragment : Fragment}
    (read : Fragment.ofValue body = .ok fragment) :
    (Foreach.apply scope node).outcome =
      (fun content => .proceed ((node.withoutField Foreach.field).withText content)) <$>
        (String.join <$> Deferred.join
          (fun item => scope.renderWithProps fragment (Foreach.itemProps item)) found).outcome := by
  have loaded : Foreach.template body = .ok fragment := by rw [Foreach.template, read]
  unfold Foreach.apply
  rw [declared]
  simp only [Foreach.parts, Deferred.outcome_bind, Deferred.outcome_done, Deferred.outcome_map,
    Deferred.outcome_pure]
  change (do
    let value ← (scope.valueOf source).outcome
    let found ← Foreach.items source value
    let fragment ← Foreach.template body
    let contents ← (Deferred.join
      (fun item => scope.renderWithProps fragment (Foreach.itemProps item)) found).outcome
    return Verdict.proceed ((node.withoutField Foreach.field).withText (String.join contents))) = _
  rw [given]
  simp only [bind, Except.bind, lists.items_eq source, loaded]
  cases (Deferred.join (fun item => scope.renderWithProps fragment (Foreach.itemProps item))
    found).outcome <;> rfl

namespace Extension

variable {extension : Extension} {extensions : List Extension}

def IsCanonical : Extension → Prop
  | .custom _ _ => False
  | _ => True

def owned : Extension → List String
  | .visibleIf => [VisibleIf.field]
  | .classShortcut _ => ClassShortcut.fields
  | .foreach => [Foreach.field]
  | .custom _ _ => []

theorem apply_of_absent (canonical : extension.IsCanonical)
    (absent : ∀ name ∈ extension.owned, node.field? name = none) (scope : Scope) :
    extension.apply scope node = pure (.proceed node) := by
  cases extension with
  | visibleIf =>
      rw [apply, VisibleIf.apply, absent _ (List.mem_singleton_self _)]
  | foreach => rw [apply, Foreach.apply, absent _ (List.mem_singleton_self _)]
  | custom name change => exact False.elim canonical
  | classShortcut transform =>
      have none : ClassShortcut.classes scope node = pure [] := by
        simp only [ClassShortcut.classes, absent "class" (by simp [owned, ClassShortcut.fields]),
          absent "__class" (by simp [owned, ClassShortcut.fields]),
          absent "==class" (by simp [owned, ClassShortcut.fields]),
          absent "classList" (by simp [owned, ClassShortcut.fields])]
        rfl
      have bare : ClassShortcut.withoutFields node = node := by
        rw [ClassShortcut.withoutFields_eq]
        exact Node.rewritten_of_absent absent
      rw [apply, ClassShortcut.apply, none, bare]
      rfl

theorem applyAll_of_absent
    (canonical : ∀ extension ∈ extensions, extension.IsCanonical)
    (absent : ∀ extension ∈ extensions, ∀ name ∈ extension.owned, node.field? name = none)
    (scope : Scope) : applyAll scope extensions node = pure (.proceed node) := by
  induction extensions with
  | nil => rfl
  | cons first rest ih =>
      obtain ⟨own, others⟩ := List.forall_mem_cons.mp canonical
      obtain ⟨first_absent, rest_absent⟩ := List.forall_mem_cons.mp absent
      rw [applyAll, apply_of_absent own first_absent]
      exact ih others rest_absent

theorem outcome_applyAll_of_foreach
    (canonical : ∀ extension ∈ extensions, extension.IsCanonical)
    (iterates : .foreach ∈ extensions)
    (alone : ∀ extension ∈ extensions, extension ≠ .foreach →
      ∀ name ∈ extension.owned, node.field? name = none) {contents : Except Fault String}
    (applied : (Foreach.apply scope node).outcome =
      (fun content => .proceed ((node.withoutField Foreach.field).withText content)) <$> contents) :
    (applyAll scope extensions node).outcome = (Foreach.apply scope node).outcome := by
  induction extensions with
  | nil => cases iterates
  | cons first rest ih =>
      obtain ⟨own, others⟩ := List.forall_mem_cons.mp canonical
      obtain ⟨absent, unowned⟩ := List.forall_mem_cons.mp alone
      by_cases same : first = .foreach
      · subst same
        rw [applyAll, Deferred.outcome_bind]
        change (Foreach.apply scope node).outcome >>= _ = _
        rw [applied]
        cases contents with
        | error fault => rfl
        | ok content =>
            -- The field has been taken, so nothing is left for those that follow.
            refine congrArg Deferred.outcome
              (applyAll_of_absent others (fun extension member name owned => ?_) scope)
            change (node.withoutField Foreach.field).field? name = none
            rw [Node.withoutField_eq, Node.field?_rewritten]
            split
            · rfl
            · rename_i untaken
              by_cases again : extension = .foreach
              · subst again
                exact absurd owned untaken
              · exact unowned extension member again name owned
      · have later : .foreach ∈ rest := List.mem_of_ne_of_mem (Ne.symm same) iterates
        rw [applyAll, apply_of_absent own (absent same) scope]
        exact ih others later unowned

end Extension

theorem renderChildren_withText (path : node.childrenPath = none)
    (expression : node.childrenExpression = none) (scope : Scope) (content : String) :
    renderChildren scope (node.withText content) = pure content := by
  have unbound : boundContent scope (node.withText content) = pure "" := by
    rw [boundContent, Node.withText, path, expression]
  change (if content = "" then boundContent scope (node.withText content) else pure content) =
    pure content
  split
  · rename_i empty
    rw [unbound, empty]
  · rfl

namespace Renderer

variable {renderer : Renderer} {depth : Nat} {template : Fragment}

/-- Every extension is one of the library. -/
def Canonical (renderer : Renderer) : Prop :=
  ∀ extension ∈ renderer.extensions, extension.IsCanonical

def StandsForItself (renderer : Renderer) (node : Node) : Prop :=
  ∀ name, node.element = some name →
    Fields.find? renderer.components name = none ∧ isComponentName name = false

def scopeAt (renderer : Renderer) (depth : Nat) (props : Value) : Scope :=
  renderer.scope (renderer.renderNodes (depth + 1)) depth props

theorem renderNodes_of_within (within : depth ≤ renderer.options.maxDepth) (nodes : List Node)
    (props : Value) : renderer.renderNodes depth nodes props =
      String.join <$> Deferred.join (renderer.renderNode (renderer.scopeAt depth props)) nodes := by
  obtain ⟨levels, limit⟩ := Nat.exists_eq_add_of_le within
  have here : renderer.options.maxDepth + 1 - depth = levels + 1 := by omega
  have below : renderer.options.maxDepth + 1 - (depth + 1) = levels := by omega
  have same : renderer.options.maxDepth - levels = depth := by omega
  have deeper : renderer.renderLevels levels = renderer.renderNodes (depth + 1) := by
    funext nodes props
    rw [renderNodes, below]
  rw [renderNodes, here, renderLevels, same, deeper]
  rfl

theorem outcome_renderNodes_singleton (within : depth ≤ renderer.options.maxDepth) (node : Node)
    (props : Value) : (renderer.renderNodes depth [node] props).outcome =
      (renderer.renderNode (renderer.scopeAt depth props) node).outcome := by
  rw [renderNodes_of_within within, Deferred.outcome_map, Deferred.join,
    Deferred.outcome_all_singleton]
  cases (renderer.renderNode (renderer.scopeAt depth props) node).outcome with
  | error fault => rfl
  | ok markup =>
      change Except.ok (String.join [markup]) = Except.ok markup
      rw [String.join_cons, String.join_nil, String.append_empty]

theorem StandsForItself.outcome_renderNodes {node : Node} (itself : renderer.StandsForItself node)
    (within : depth ≤ renderer.options.maxDepth) {outer props : Value}
    (resolved : (nodeProps (renderer.scopeAt depth outer) node).outcome = .ok props) :
    (renderer.renderNodes depth [node] outer).outcome =
      (renderElement renderer.extensions (renderer.scopeAt depth props) node).outcome := by
  have unregistered : renderer.component? node = none := by
    cases named : node.element with
    | none => rw [component?, named]; rfl
    | some name => rw [component?, named]; exact (itself name named).1
  have unnamed : node.element.filter isComponentName = none := by
    cases named : node.element with
    | none => rfl
    | some name => simp [Option.filter, (itself name named).2]
  rw [outcome_renderNodes_singleton within, renderNode, Deferred.outcome_bind, resolved]
  simp only [bind, Except.bind, unregistered, unnamed]
  rfl

def itemContent (renderer : Renderer) (depth : Nat) (template : Fragment) (item : Value) :
    Deferred Fault String :=
  renderer.renderNodes (depth + 1) template.nodes (Foreach.itemProps item)

def contents (renderer : Renderer) (depth : Nat) (template : Fragment) (items : List Value) :
    Deferred Fault String :=
  String.join <$> Deferred.join (renderer.itemContent depth template) items

/-- A node that repeats a template for some items, has no field of another extension and no bound
children, and whose props and attributes resolve. -/
structure Repeats (renderer : Renderer) (depth : Nat) (outer : Value) (node : Node) (props : Value)
    (attributes : Fields Value) (items : List Value) (template : Fragment) : Prop where
  itself : renderer.StandsForItself node
  resolved : (nodeProps (renderer.scopeAt depth outer) node).outcome = .ok props
  given : ((renderer.scopeAt depth props).resolveOptional node.attributes).outcome = .ok attributes
  declared : ∃ source body value, node.field? Foreach.field = some (.array [source, body]) ∧
    ((renderer.scopeAt depth props).valueOf source).outcome = .ok value ∧
    Foreach.Lists value items ∧ Fragment.ofValue body = .ok template
  alone : ∀ extension ∈ renderer.extensions, extension ≠ .foreach →
    ∀ name ∈ extension.owned, node.field? name = none
  path : node.childrenPath = none
  expression : node.childrenExpression = none

namespace Repeats

variable {outer props : Value} {node : Node} {attributes : Fields Value} {items : List Value}
  (repeats : renderer.Repeats depth outer node props attributes items template)

include repeats

theorem outcome_apply : (Foreach.apply (renderer.scopeAt depth props) node).outcome =
    (fun content => .proceed ((node.withoutField Foreach.field).withText content)) <$>
      (renderer.contents depth template items).outcome := by
  obtain ⟨source, body, value, declared, yields, lists, read⟩ := repeats.declared
  exact Foreach.outcome_apply_of_declared declared yields lists read

theorem outcome_renderNodes (canonical : renderer.Canonical)
    (iterates : .foreach ∈ renderer.extensions) (within : depth ≤ renderer.options.maxDepth) :
    (renderer.renderNodes depth [node] outer).outcome =
      (fun content => Html.compose (node.elementIn (renderer.scopeAt depth props).settled) attributes
        content node.closing) <$> (renderer.contents depth template items).outcome := by
  have chain := Extension.outcome_applyAll_of_foreach canonical iterates repeats.alone
    repeats.outcome_apply
  rw [repeats.itself.outcome_renderNodes within repeats.resolved, renderElement,
    Deferred.outcome_bind, chain, repeats.outcome_apply]
  cases (renderer.contents depth template items).outcome with
  | error fault => rfl
  | ok content =>
      let scope := renderer.scopeAt depth props
      let changed := (node.withoutField Foreach.field).withText content
      have element : resolveElement scope.settled node changed = node.elementIn scope.settled :=
        resolveElement_eq_elementIn rfl scope.settled
      have inner : renderChildren scope changed = pure content :=
        renderChildren_withText repeats.path repeats.expression scope content
      change (do
        let attributes ← scope.resolveOptional node.attributes
        let content ← renderChildren scope changed
        return Html.compose (resolveElement scope.settled node changed) attributes content
          node.closing : Deferred Fault String).outcome = _
      rw [Deferred.outcome_bind, repeats.given, inner, element]
      rfl

end Repeats

theorem outcome_contents_eq_error_iff {items : List Value} {fault : Fault} :
    (renderer.contents depth template items).outcome = .error fault ↔
      (Deferred.join (renderer.itemContent depth template) items).outcome = .error fault :=
  Deferred.outcome_map_eq_error_iff

theorem outcome_contents_eq_ok_iff {items : List Value} {whole : String} :
    (renderer.contents depth template items).outcome = .ok whole ↔ ∃ parts,
      List.Forall₂ (fun item part => (renderer.itemContent depth template item).outcome = .ok part)
        items parts ∧ whole = String.join parts := by
  rw [contents, Deferred.outcome_map]
  have each (parts : List String) :
      (Deferred.join (renderer.itemContent depth template) items).outcome = .ok parts ↔ _ :=
    Deferred.outcome_all_eq_ok_iff
  simp only [← each]
  cases (Deferred.join (renderer.itemContent depth template) items).outcome with
  | error fault => simp [Functor.map, Except.map]
  | ok parts => simp [Functor.map, Except.map, eq_comm]

theorem outcome_contents_append_eq_ok_iff {xs ys : List Value} {whole : String} :
    (renderer.contents depth template (xs ++ ys)).outcome = .ok whole ↔
      ∃ first second, (renderer.contents depth template xs).outcome = .ok first ∧
        (renderer.contents depth template ys).outcome = .ok second ∧ whole = first ++ second := by
  simp only [outcome_contents_eq_ok_iff]
  constructor
  · rintro ⟨parts, each, rfl⟩
    have first := (List.forall₂_take_append parts xs ys each.flip).flip
    have second := (List.forall₂_drop_append parts xs ys each.flip).flip
    refine ⟨_, _, ⟨_, first, rfl⟩, ⟨_, second, rfl⟩, ?_⟩
    rw [← String.join_append, List.take_append_drop]
  · rintro ⟨_, _, ⟨before, first, rfl⟩, ⟨behind, second, rfl⟩, rfl⟩
    exact ⟨before ++ behind, List.rel_append first second, String.join_append.symm⟩

def week : Renderer where
  extensions := [.classShortcut none, .foreach, .visibleIf]
  context := .object [("tag", .string "ol")]
  utilities := [("days", fun _ _ => .later (.done (.ok (.array [.string "Mo", .null]))))]
  options := { maxDepth := 1 }

def dayTemplate : Value := .object [("element", .string "li"), ("__children", .string "value")]

def dayList : Node where
  element := some "ul"
  elementPath := some "tag"
  attributes := some [("id", .path "note")]
  props := some [("note", .literal (.string "open")), ("value", .literal (.string "own"))]
  children := some (.text "lost")
  fields := [("foreach", .array [.object [("utility", .string "days")], dayTemplate])]

def dayProps : Value := .object [("note", .string "open"), ("value", .string "own")]

def day : Node where
  element := some "li"
  childrenPath := some "value"

theorem dayList_resolved : (nodeProps (week.scopeAt 0 .null) dayList).outcome = .ok dayProps := by
  cbv

theorem dayList_given : ((week.scopeAt 0 dayProps).resolveOptional dayList.attributes).outcome =
    .ok [("id", .string "open")] := by
  cbv

theorem week_days :
    ((week.scopeAt 0 dayProps).valueOf (.object [("utility", .string "days")])).outcome =
      .ok (some (.array [.string "Mo", .null])) := by
  cbv

theorem day_of_template : Fragment.ofValue dayTemplate = .ok (.one day) := by
  cbv

theorem dayContent : (week.itemContent 0 (.one day) (.string "Mo")).outcome = .ok "<li>Mo</li>" := by
  cbv

theorem emptyDayContent : (week.itemContent 0 (.one day) .null).outcome = .ok "<li></li>" := by
  cbv

theorem dayList_composed :
    Html.compose (dayList.elementIn (week.scopeAt 0 dayProps).settled) [("id", .string "open")]
      (String.join ["<li>Mo</li>", "<li></li>"]) dayList.closing =
    "<ol id=\"open\"><li>Mo</li><li></li></ol>" := by
  cbv

end Renderer

end Concurrent

end MarkupTree
