import MarkupTree.Concurrent.Immediate
import MarkupTree.Proofs.Rendering.Calls
import MarkupTree.Proofs.Concurrent.Joins
import MarkupTree.Proofs.Values.Fields

/-!
Utilities that answer at once. Where no utility suspends, nothing has to be waited for: every
evaluation is done in its first round, with the result that it has where one thing is looked at after
the other.
-/

namespace MarkupTree

namespace Deferred

variable {ε ε' α β ι : Type}

theorem done_bind {next : α → Deferred ε β} {step : α → Except ε β}
    (each : ∀ value, next value = .done (step value)) (result : Except ε α) :
    Deferred.done result >>= next = .done (result >>= step) := by
  cases result with
  | error fault => rfl
  | ok value => exact each value

theorem map_done (f : α → β) (result : Except ε α) :
    f <$> Deferred.done result = .done (f <$> result) := by
  cases result <;> rfl

theorem both_bind_done {held : Bool} {γ : Type} {next : α × β → Deferred ε γ}
    {step : α → β → Except ε γ}
    (each : ∀ value other, next (value, other) = .done (step value other))
    (first : Except ε α) (second : Except ε β) :
    (both held (.done first) fun _ => .done second) >>= next =
      .done (do step (← first) (← second)) := by
  cases first with
  | error fault => rfl
  | ok value =>
      cases second with
      | error fault => rfl
      | ok other => exact each value other

theorem all_done {held : Bool} {ask : ι → Deferred ε α} {result : ι → Except ε α}
    (each : ∀ item, ask item = .done (result item)) (items : List ι) :
    all held ask items = .done (items.mapM result) := by
  induction items with
  | nil => rfl
  | cons item rest ih =>
      rw [all, each, ih, List.mapM_cons]
      exact both_bind_done (fun _ _ => rfl) _ _

end Deferred

namespace Scope

variable {scope : Scope}

theorem settled_concurrent (scope : Scope) : scope.concurrent.settled = scope := by
  cases scope
  simp [concurrent, Concurrent.Scope.settled, Concurrent.immediate, Fields.mapValues,
    Function.comp_def]

theorem lookup_concurrent (scope : Scope) (path : String) :
    scope.concurrent.lookup path = scope.lookup path := by
  rw [Concurrent.Scope.lookup, settled_concurrent]

theorem find?_concurrent (scope : Scope) (name : String) :
    Fields.find? scope.concurrent.utilities name =
      (Fields.find? scope.utilities name).map Concurrent.immediate :=
  Fields.find?_mapValues Concurrent.immediate scope.utilities name

theorem calls_concurrent (scope : Scope) :
    (∀ call, scope.concurrent.applyCall call = .done (scope.applyCall call)) ∧
    (∀ parameters held,
      scope.concurrent.applyAll held parameters = .done (scope.applyParameters parameters)) ∧
    ∀ value, scope.concurrent.applyValue value = .done (scope.applyValue value) := by
  apply Scope.applyCall.mutual_induct scope
  case case1 =>
    intro call unknown
    rw [applyCall, Concurrent.Scope.applyCall, find?_concurrent, unknown]
    rfl
  case case2 =>
    intro call utility known parameters
    rw [applyCall, Concurrent.Scope.applyCall, find?_concurrent, known]
    simp only [Option.map_some, parameters]
    refine Deferred.done_bind (fun arguments => ?_) _
    change Deferred.done (Concurrent.Scope.callResult (utility scope.receiver arguments)) = _
    cases utility scope.receiver arguments <;> rfl
  case case3 =>
    intro held
    rw [applyParameters, Concurrent.Scope.applyAll]
    rfl
  case case4 =>
    intro parameter rest first others held
    rw [applyParameters, Concurrent.Scope.applyAll, first, others]
    exact Deferred.both_bind_done (fun _ _ => rfl) _ _
  case case5 =>
    intro value call found applied
    rw [applyValue_of_call found, ← applied, Concurrent.Scope.applyValue]
    split <;> simp_all
  case case6 =>
    intro value plain
    rw [applyValue_of_plain plain, Concurrent.Scope.applyValue]
    split <;> simp_all

theorem renderTarget_concurrent (scope : Scope) (target : Option Value) :
    scope.concurrent.renderTarget target = .done (Expr.renderTarget scope target) := by
  cases target with
  | none => rfl
  | some value =>
      rw [Concurrent.Scope.renderTarget, Expr.renderTarget]
      cases Fragment.ofValue value with
      | error cause => rfl
      | ok fragment =>
          change Deferred.done (Concurrent.Scope.renderResult (scope.render fragment)) = _
          dsimp only
          cases scope.render fragment <;> rfl

theorem invoke_concurrent (scope : Scope) (name : String) (utility : Utility)
    (arguments : List Value) :
    (Concurrent.immediate utility scope.concurrent.receiver arguments).convert
      (Concurrent.Scope.utilityResult name) = .done (Expr.invoke scope name utility arguments) := by
  change Deferred.done (Concurrent.Scope.utilityResult name (utility scope.receiver arguments)) = _
  rw [Expr.invoke]
  cases utility scope.receiver arguments <;> rfl

theorem calleeOf_concurrent (scope : Scope) (callee : Expr) :
    scope.concurrent.calleeOf callee = (Expr.calleeOf scope callee).concurrent := by
  cases callee with
  | identifier name =>
      rw [Concurrent.Scope.calleeOf, Expr.calleeOf, Concurrent.Scope.utilityOr, find?_concurrent]
      split
      · rfl
      · cases Fields.find? scope.utilities name <;> rfl
  | member object name =>
      cases object with
      | identifier root =>
          rw [Concurrent.Scope.calleeOf, Expr.calleeOf, Concurrent.Scope.utilityOr,
            find?_concurrent]
          split
          · cases Fields.find? scope.utilities name <;> rfl
          · rfl
      | _ => rfl
  | _ => rfl

theorem expressions_concurrent (scope : Scope) :
    (∀ expr, scope.concurrent.evaluateExpr expr = .done (expr.evaluate scope)) ∧
    (∀ items held, scope.concurrent.evaluateAll held items = .done (Expr.evaluateAll scope items)) ∧
    ∀ items, scope.concurrent.evaluateFirst items = .done (Expr.evaluateFirst scope items) := by
  apply Expr.evaluate.mutual_induct scope
  case case1 => intro value; rfl
  case case2 => rfl
  case case3 =>
    intro name
    rw [Expr.evaluate, Concurrent.Scope.evaluateExpr, settled_concurrent]
    rfl
  case case4 =>
    intro object name path static
    simp only [Expr.evaluate, Concurrent.Scope.evaluateExpr, static, lookup_concurrent]
    rfl
  case case5 =>
    intro object name dynamic same
    simp only [Expr.evaluate, Concurrent.Scope.evaluateExpr, dynamic, same]
    exact Deferred.done_bind (fun _ => rfl) _
  case case6 =>
    intro object key first second
    simp only [Expr.evaluate, Concurrent.Scope.evaluateExpr, first, second]
    exact Deferred.both_bind_done (fun _ _ => rfl) _ _
  case case7 =>
    intro callee arguments called target
    simp only [Expr.evaluate, Concurrent.Scope.evaluateExpr, calleeOf_concurrent, called, target]
    exact Deferred.done_bind (fun _ => renderTarget_concurrent scope _) _
  case case8 =>
    intro callee arguments name utility called values
    simp only [Expr.evaluate, Concurrent.Scope.evaluateExpr, calleeOf_concurrent, called, values]
    exact Deferred.done_bind (fun _ => invoke_concurrent scope name utility _) _
  case case9 =>
    intro callee arguments name called
    simp only [Expr.evaluate, Concurrent.Scope.evaluateExpr, calleeOf_concurrent, called]
    rfl
  case case10 =>
    intro operator operand same
    simp only [Expr.evaluate, Concurrent.Scope.evaluateExpr, same]
    exact Deferred.done_bind (fun _ => Deferred.map_done _ _) _
  case case11 | case12 =>
    intro left right first second
    simp only [Expr.evaluate, Concurrent.Scope.evaluateExpr, first, second]
    refine Deferred.done_bind (fun value => ?_) _
    split <;> rfl
  case case13 =>
    intro operator left right no_and no_or first second
    simp only [Expr.evaluate, Concurrent.Scope.evaluateExpr, first, second]
    exact Deferred.both_bind_done (fun _ _ => rfl) _ _
  case case14 =>
    intro test consequent alternative decided first second
    simp only [Expr.evaluate, Concurrent.Scope.evaluateExpr, decided, first, second]
    refine Deferred.done_bind (fun value => ?_) _
    split <;> rfl
  case case15 =>
    intro items each
    simp only [Expr.evaluate, Concurrent.Scope.evaluateExpr, each]
    exact Deferred.done_bind (fun _ => rfl) _
  case case16 => intro held; rfl
  case case17 =>
    intro item rest first others held
    simp only [Expr.evaluateAll, Concurrent.Scope.evaluateAll, first, others]
    exact Deferred.both_bind_done (fun _ _ => rfl) _ _
  case case18 => rfl
  case case19 =>
    intro item rest first
    exact first

theorem evaluateSoft_concurrent (scope : Scope) (source : String) :
    scope.concurrent.evaluateSoft source = .done (scope.evaluateSoft source) := by
  have same : scope.concurrent.evaluate source = .done (scope.evaluate source) := by
    rw [Concurrent.Scope.evaluate, Scope.evaluate]
    cases parse source with
    | error cause => rfl
    | ok expr => exact scope.expressions_concurrent.1 expr
  rw [Concurrent.Scope.evaluateSoft, same, Scope.evaluateSoft]
  cases scope.evaluate source with
  | ok value => rfl
  | error cause => cases cause <;> rfl

theorem valueOf_concurrent (scope : Scope) (value : Value) :
    scope.concurrent.valueOf value = .done (scope.valueOf value) := by
  cases value with
  | string source => exact scope.evaluateSoft_concurrent source
  | _ => exact scope.calls_concurrent.2.2 _

theorem resolveBinding_concurrent (scope : Scope) (binding : Binding) :
    scope.concurrent.resolveBinding binding = .done (binding.resolve scope) := by
  cases binding with
  | literal value => cases value <;> rfl
  | path dotted =>
      rw [Concurrent.Scope.resolveBinding, lookup_concurrent]
      rfl
  | expression source =>
      rw [Concurrent.Scope.resolveBinding, evaluateSoft_concurrent]
      exact Deferred.map_done _ _
  | call call =>
      rw [Concurrent.Scope.resolveBinding, scope.calls_concurrent.1]
      exact Deferred.map_done _ _

theorem resolveEach_eq_withValues (scope : Scope) (bindings : Bindings) :
    Bindings.resolveEach scope bindings = Concurrent.Scope.withValues bindings <$>
      bindings.mapM fun entry => entry.2.resolve scope := by
  induction bindings with
  | nil => rfl
  | cons entry rest ih =>
      rw [Bindings.resolveEach, ih, List.mapM_cons]
      cases entry.2.resolve scope with
      | error fault => rfl
      | ok value =>
          cases rest.mapM fun entry => entry.2.resolve scope with
          | error fault => rfl
          | ok values => cases value <;> rfl

theorem resolve_concurrent (scope : Scope) (bindings : Bindings) :
    scope.concurrent.resolve bindings = .done (bindings.resolve scope) := by
  rw [Concurrent.Scope.resolve, Deferred.join,
    Deferred.all_done fun entry : String × Binding => scope.resolveBinding_concurrent entry.2,
    Bindings.resolve, resolveEach_eq_withValues]
  cases bindings.mapM fun entry => entry.2.resolve scope <;> rfl

theorem resolveOptional_concurrent (scope : Scope) (bindings : Option Bindings) :
    scope.concurrent.resolveOptional bindings = .done (Bindings.resolveOptional scope bindings) := by
  cases bindings with
  | none => rfl
  | some bindings => exact scope.resolve_concurrent bindings

end Scope

namespace ClassShortcut

theorem conditional_concurrent (scope : Scope) (conditions : List (String × Value)) :
    Concurrent.ClassShortcut.conditional scope.concurrent conditions =
      .done (conditional scope conditions) := by
  induction conditions with
  | nil => rfl
  | cons entry rest ih =>
      rw [Concurrent.ClassShortcut.conditional, conditional, Scope.valueOf_concurrent, ih]
      exact Deferred.done_bind (fun _ => Deferred.done_bind (fun _ => rfl) _) _

theorem classes_concurrent (scope : Scope) (node : Node) :
    Concurrent.ClassShortcut.classes scope.concurrent node = .done (classes scope node) := by
  have plain (value : Option Value) : Concurrent.ClassShortcut.ofPlain scope.concurrent value =
      .done (ofPlain scope value) := by
    cases value with
    | none => rfl
    | some value =>
        cases value with
        | object conditions => exact conditional_concurrent scope conditions
        | _ => rfl
  have expression (value : Option Value) :
      Concurrent.ClassShortcut.ofExpression scope.concurrent value =
        .done (ofExpression scope value) := by
    cases value with
    | none => rfl
    | some value =>
        cases value with
        | string source =>
            rw [Concurrent.ClassShortcut.ofExpression, Scope.evaluateSoft_concurrent]
            exact Deferred.done_bind (fun _ => rfl) _
        | _ => rfl
  have list (value : Option Value) : Concurrent.ClassShortcut.ofList scope.concurrent value =
      .done (ofList scope value) := by
    cases value with
    | none => rfl
    | some value =>
        cases value with
        | object conditions => exact conditional_concurrent scope conditions
        | _ => rfl
  rw [Concurrent.ClassShortcut.classes, plain, expression, list, Scope.settled_concurrent]
  exact Deferred.done_bind (fun _ => Deferred.done_bind (fun _ =>
    Deferred.done_bind (fun _ => rfl) _) _) _

theorem expand_concurrent (scope : Scope) (transform : Option String) (joined : String) :
    Concurrent.ClassShortcut.expand scope.concurrent transform joined =
      .done (expand scope transform joined) := by
  cases transform with
  | none => rfl
  | some name =>
      rw [Concurrent.ClassShortcut.expand, expand, Scope.find?_concurrent]
      cases Fields.find? scope.utilities name with
      | none => rfl
      | some utility =>
          change Deferred.done (Concurrent.ClassShortcut.expansion joined
            (utility scope.receiver [.string joined])) = _
          dsimp only
          cases utility scope.receiver [.string joined] <;> rfl

end ClassShortcut

namespace Extension

theorem apply_concurrent (scope : Scope) (node : Node) (extension : Extension) :
    extension.concurrent.apply scope.concurrent node = .done (extension.apply scope node) := by
  cases extension with
  | visibleIf =>
      simp only [concurrent, Concurrent.Extension.apply, apply, Concurrent.VisibleIf.apply,
        VisibleIf.apply]
      cases node.field? VisibleIf.field with
      | none => rfl
      | some condition =>
          dsimp only
          rw [Scope.valueOf_concurrent]
          exact Deferred.done_bind (fun _ => rfl) _
  | classShortcut transform =>
      simp only [concurrent, Concurrent.Extension.apply, apply, Concurrent.ClassShortcut.apply,
        ClassShortcut.apply, ClassShortcut.classes_concurrent]
      refine Deferred.done_bind (fun found => ?_) _
      split
      · rfl
      · rw [ClassShortcut.expand_concurrent]
        refine Deferred.done_bind (fun expanded => ?_) _
        split <;> rfl
  | foreach =>
      simp only [concurrent, Concurrent.Extension.apply, apply, Concurrent.Foreach.apply,
        Foreach.apply]
      cases node.field? Foreach.field with
      | none => rfl
      | some declaration =>
          refine Deferred.done_bind (fun parts => ?_) _
          rw [Scope.valueOf_concurrent]
          refine Deferred.done_bind (fun value => Deferred.done_bind (fun found =>
            Deferred.done_bind (fun fragment => ?_) _) _) _
          have each (item : Value) :
              scope.concurrent.renderWithProps fragment (Foreach.itemProps item) =
                .done (scope.renderWithProps fragment (Foreach.itemProps item)) := rfl
          rw [Deferred.join, Deferred.all_done each]
          exact Deferred.done_bind (fun contents => rfl) _
  | custom name change =>
      change Deferred.done (change scope.concurrent.settled node) = _
      rw [Scope.settled_concurrent]
      rfl

theorem applyAll_concurrent (scope : Scope) (extensions : List Extension) (node : Node) :
    Concurrent.Extension.applyAll scope.concurrent (extensions.map concurrent) node =
      .done (applyAll scope extensions node) := by
  induction extensions generalizing node with
  | nil => rfl
  | cons extension rest ih =>
      rw [List.map_cons, Concurrent.Extension.applyAll, applyAll, apply_concurrent]
      refine Deferred.done_bind (fun verdict => ?_) _
      cases verdict with
      | proceed next => exact ih next
      | stop => rfl

end Extension

theorem renderChildren_concurrent (scope : Scope) (node : Node) :
    Concurrent.renderChildren scope.concurrent node = .done (renderChildren scope node) := by
  have bound : Concurrent.boundContent scope.concurrent node = .done (boundContent scope node) := by
    rw [Concurrent.boundContent, boundContent]
    cases node.childrenPath with
    | some path =>
        dsimp only
        rw [Scope.lookup_concurrent]
        rfl
    | none =>
        cases node.childrenExpression with
        | none => rfl
        | some source =>
            dsimp only
            rw [Scope.evaluateSoft_concurrent]
            exact Deferred.map_done _ _
  rw [Concurrent.renderChildren, renderChildren]
  cases node.children with
  | none => exact bound
  | some children =>
      cases children with
      | text content =>
          dsimp only
          split
          · exact bound
          · rfl
      | nodes items => rfl
      | call call =>
          dsimp only
          rw [scope.calls_concurrent.1]
          exact Deferred.map_done _ _

namespace Renderer

theorem renderElement_concurrent (extensions : List Extension) (scope : Scope) (node : Node) :
    Concurrent.Renderer.renderElement (extensions.map Extension.concurrent) scope.concurrent node =
      .done (renderElement extensions scope node) := by
  rw [Concurrent.Renderer.renderElement, renderElement, Extension.applyAll_concurrent]
  refine Deferred.done_bind (fun verdict => ?_) _
  cases verdict with
  | stop => rfl
  | proceed changed =>
      dsimp only
      rw [Scope.resolveOptional_concurrent, renderChildren_concurrent, Scope.settled_concurrent]
      exact Deferred.done_bind (fun _ => Deferred.done_bind (fun _ => rfl) _) _

theorem nodeProps_concurrent (scope : Scope) (node : Node) :
    Concurrent.Renderer.nodeProps scope.concurrent node = .done (nodeProps scope node) := by
  rw [Concurrent.Renderer.nodeProps, nodeProps]
  cases node.props with
  | none => rfl
  | some bindings =>
      dsimp only
      rw [Scope.resolve_concurrent]
      exact Deferred.map_done _ _

theorem renderNode_concurrent (renderer : Renderer) (outer : Scope) (node : Node) :
    renderer.concurrent.renderNode outer.concurrent node =
      .done (renderer.renderNode outer node) := by
  rw [Concurrent.Renderer.renderNode, renderNode, nodeProps_concurrent]
  refine Deferred.done_bind (fun props => ?_) _
  have same : renderer.concurrent.component? node = renderer.component? node := rfl
  rw [same]
  cases renderer.component? node with
  | some fragment => rfl
  | none =>
      dsimp only
      cases node.element.filter isComponentName with
      | some name => rfl
      | none => exact renderElement_concurrent renderer.extensions (outer.withProps props) node

theorem renderLevels_concurrent (renderer : Renderer) (levels : Nat) (nodes : List Node)
    (props : Value) : renderer.concurrent.renderLevels levels nodes props =
      .done (renderer.renderLevels levels nodes props) := by
  induction levels generalizing nodes props with
  | zero => cases nodes <;> rfl
  | succ levels ih =>
      rw [Concurrent.Renderer.renderLevels, renderLevels]
      let depth := renderer.options.maxDepth - levels
      let inner := renderer.scope (renderer.renderLevels levels) depth props
      have same : renderer.concurrent.scope (renderer.concurrent.renderLevels levels) depth props =
          inner.concurrent := by
        rw [funext fun nodes => funext (ih nodes)]
        rfl
      change (do
        let parts ← Deferred.join (renderer.concurrent.renderNode (renderer.concurrent.scope
          (renderer.concurrent.renderLevels levels) depth props)) nodes
        return String.join parts) = _
      rw [same, Deferred.join, Deferred.all_done (renderer.renderNode_concurrent inner)]
      exact Deferred.done_bind (fun _ => rfl) _

/-- Where every utility answers at once, rendering together and one by one come to the same. -/
theorem renderNodes_concurrent (renderer : Renderer) (depth : Nat) (nodes : List Node)
    (props : Value) : renderer.concurrent.renderNodes depth nodes props =
      .done (renderer.renderNodes depth nodes props) :=
  renderer.renderLevels_concurrent _ nodes props

end Renderer

end MarkupTree
