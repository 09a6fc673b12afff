import Mathlib
import MarkupTree.Proofs.Rendering.Configured

/-!
Expressions that render nothing, and structured calls. Such an expression comes to the same in a sealed
scope, which has the data of a scope and cannot render, and a call asks for this data only. So of a
scope they see its data alone: whatever components, extensions and limits are behind it, and however
deep it lies, they give the same, and no fault but that of an unknown utility comes out of them.
-/

namespace MarkupTree

/-- What ends every nested render of a sealed scope, and no call. -/
def Fault.seal : Fault := .recursionLimit 0 none

def Tolerance.ofSeal : Tolerance Fault where
  frees fault := fault = .seal
  pairs := Eq

theorem Tolerance.eq_of_pairs_lift {failure other : ExprFault}
    (pairs : Tolerance.ofSeal.lift.pairs failure other) : failure = other := by
  cases failure with
  | fatal fault =>
      cases other with
      | fatal other => exact congrArg _ pairs
      | _ => exact False.elim pairs
  | _ => exact pairs

theorem Agree.eq_of_failsOnly {ε α : Type} {tolerance : Tolerance ε} {first second : Except ε α}
    (agree : Agree tolerance Eq first second)
    (alone : ∀ fault other, tolerance.pairs fault other → fault = other)
    (fails : FailsOnly (fun fault => ¬ tolerance.frees fault) first) : first = second := by
  cases agree with
  | values same => rw [same]
  | freed frees second => exact absurd frees (fails _ rfl)
  | paired pairs => rw [alone _ _ pairs]

namespace Scope

/-- Two scopes with the same data. How they render is not looked at, nor how deep they lie. -/
structure SameData (a b : Scope) : Prop where
  context : a.context = b.context
  utilities : a.utilities = b.utilities
  props : a.props = b.props

def withoutRenders (scope : Scope) : Scope :=
  { scope with depth := 0, deeper := fun _ _ => .error .seal }

theorem SameData.withoutRenders_eq {a b : Scope} (same : a.SameData b) :
    a.withoutRenders = b.withoutRenders := by
  rw [withoutRenders, withoutRenders, same.context, same.utilities, same.props]

variable (scope : Scope)

theorem alike_withoutRenders : Alike .ofSeal Eq scope.withoutRenders scope where
  context := rfl
  utilities := rfl
  props := rfl
  missing _ _ := .inr rfl
  itself _ := rfl
  deeper _ _ := .freed rfl _

theorem neverFatal_of_callsRender {expr : Expr} (plain : expr.callsRender = false) :
    NeverFatal (expr.evaluate scope) := by
  have fails : FailsOnly (ExprFault.StemsFrom fun _ => False) (expr.evaluate scope) := by
    refine scope.expressions_failOnly.1 expr fun renders => ?_
    rw [plain] at renders
    cases renders
  intro fault fatal
  exact fails (.fatal fault) fatal

theorem evaluate_withoutRenders {expr : Expr} (plain : expr.callsRender = false) :
    expr.evaluate scope.withoutRenders = expr.evaluate scope := by
  have agree := scope.alike_withoutRenders.expressions.1 expr
  refine agree.eq_of_failsOnly (fun _ _ => Tolerance.eq_of_pairs_lift) ?_
  intro cause failed frees
  cases cause with
  | fatal fault => exact scope.withoutRenders.neverFatal_of_callsRender plain fault failed
  | _ => exact frees

end Scope

namespace Scope.SameData

variable {a b : Scope}

theorem evaluate (same : a.SameData b) {expr : Expr} (plain : expr.callsRender = false) :
    expr.evaluate a = expr.evaluate b := by
  rw [← a.evaluate_withoutRenders plain, same.withoutRenders_eq, b.evaluate_withoutRenders plain]

theorem evaluateSource (same : a.SameData b) {source : String} (plain : RendersNothing source) :
    a.evaluate source = b.evaluate source := by
  unfold Scope.evaluate
  cases parsed : parse source with
  | error cause => rfl
  | ok expr => exact same.evaluate (plain expr parsed)

theorem calls_agree (same : a.SameData b) :
    (∀ call, Agree .exact Eq (a.applyCall call) (b.applyCall call)) ∧
      (∀ parameters, Agree .exact Eq (a.applyParameters parameters) (b.applyParameters parameters)) ∧
      ∀ value, Agree .exact Eq (a.applyValue value) (b.applyValue value) := by
  have receiver : a.receiver = b.receiver := by
    rw [Scope.receiver, Scope.receiver, same.context, same.props]
  exact Scope.calls_agree same.utilities receiver fun name _ => Tolerance.covers_exact _

theorem applyCall (same : a.SameData b) (call : Call) : a.applyCall call = b.applyCall call :=
  Agree.exact_iff.mp (same.calls_agree.1 call)

theorem applyValue (same : a.SameData b) (value : Value) :
    a.applyValue value = b.applyValue value :=
  Agree.exact_iff.mp (same.calls_agree.2.2 value)

end Scope.SameData

/--
Calls of `render` are the only way from an expression to what is behind its scope. Without one an
expression gives the same in any two scopes with the same data, and is never fatal; so do structured
calls, and values that may be calls, which fail for an unknown utility only.
-/
theorem Scope.evaluation_sees_data_only {a b : Scope} (same : a.SameData b) :
    (∀ expr : Expr, expr.callsRender = false →
      expr.evaluate a = expr.evaluate b ∧ NeverFatal (expr.evaluate a)) ∧
    (∀ source, RendersNothing source → a.evaluate source = b.evaluate source ∧
      ∃ value, a.evaluateSoft source = .ok value ∧ b.evaluateSoft source = .ok value) ∧
    (∀ call, a.applyCall call = b.applyCall call ∧ FailsOnly a.Lacks (a.applyCall call)) ∧
    ∀ value, a.applyValue value = b.applyValue value ∧ FailsOnly a.Lacks (a.applyValue value) := by
  refine ⟨?_, ?_, ?_, ?_⟩
  · intro expr plain
    exact ⟨same.evaluate plain, a.neverFatal_of_callsRender plain⟩
  · intro source plain
    have evaluated := same.evaluateSource plain
    have soft : a.evaluateSoft source = b.evaluateSoft source := by
      rw [evaluateSoft, evaluateSoft, evaluated]
    have fails : FailsOnly (fun _ => False) (a.evaluateSoft source) := plain.evaluateSoft
    cases given : a.evaluateSoft source with
    | error fault => exact False.elim (fails fault given)
    | ok value => exact ⟨evaluated, value, rfl, soft.symm.trans given⟩
  · intro call
    exact ⟨same.applyCall call, a.calls_failOnly.1 call⟩
  · intro value
    exact ⟨same.applyValue value, a.calls_failOnly.2.2 value⟩

namespace Renderer

def echoing : Renderer where
  context := .object [("title", .string "Site")]
  utilities := [("render", fun _ arguments => .ok (.array arguments))]

def looping : Renderer :=
  { echoing with
    components := [("Loop", .one (.ofElement "Loop"))]
    extensions := Extension.canonical
    options := { maxDepth := 3 } }

theorem echoing_sees_data_only :
    (echoing.rootScope .null).SameData (looping.scope (looping.renderNodes 4) 3 .null) ∧
    RendersNothing "utilities.render(title, Loop)" ∧
    (∃ value, (echoing.rootScope .null).evaluateSoft "utilities.render(title, Loop)" = .ok value ∧
      (looping.scope (looping.renderNodes 4) 3 .null).evaluateSoft
        "utilities.render(title, Loop)" = .ok value ∧
      value = some (.array [.string "Site", .null])) ∧
    FailsOnly (echoing.rootScope .null).Lacks
      ((echoing.rootScope .null).applyCall ⟨"Loop", []⟩) := by
  have same : (echoing.rootScope .null).SameData (looping.scope (looping.renderNodes 4) 3 .null) :=
    ⟨rfl, rfl, rfl⟩
  have plain : RendersNothing "utilities.render(title, Loop)" := by
    have parsed : (parse "utilities.render(title, Loop)").map Expr.callsRender = .ok false := by cbv
    rw [rendersNothing_iff, parsed]
    rintro ⟨⟩
  have given : (echoing.rootScope .null).evaluateSoft "utilities.render(title, Loop)" =
      .ok (some (.array [.string "Site", .null])) := by cbv
  obtain ⟨-, sources, calls, -⟩ := Scope.evaluation_sees_data_only same
  obtain ⟨-, value, first, second⟩ := sources _ plain
  have found : value = some (.array [.string "Site", .null]) :=
    Except.ok.inj (first.symm.trans given)
  exact ⟨same, plain, ⟨value, first, second, found⟩, (calls ⟨"Loop", []⟩).2⟩

end Renderer

end MarkupTree
