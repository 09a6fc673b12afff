import MarkupTree.Proofs.Rendering.Agreement

/-!
Expressions and bindings in two scopes that see the same data: their results agree wherever the
nested renders of the scopes do.
-/

namespace MarkupTree

/-! Operators fail on their operands only: no fault of a render comes out of them. -/

def NeverFatal {α : Type} (result : Except ExprFault α) : Prop :=
  ∀ fault, result ≠ .error (.fatal fault)

namespace NeverFatal

variable {α β : Type}

theorem ok (x : α) : NeverFatal (.ok x) := by
  intro fault impossible
  cases impossible

theorem bind {result : Except ExprFault α} {next : α → Except ExprFault β}
    (first : NeverFatal result) (each : ∀ x, NeverFatal (next x)) :
    NeverFatal (result >>= next) := by
  cases result with
  | ok x => exact each x
  | error failure =>
      intro fault fatal
      exact first fault (congrArg _ (Except.error.inj fatal))

theorem map {result : Except ExprFault α} (first : NeverFatal result) (f : α → β) :
    NeverFatal (f <$> result) := by
  cases result with
  | ok x => exact ok (f x)
  | error failure =>
      intro fault fatal
      exact first fault (congrArg _ (Except.error.inj fatal))

theorem toNumber (operator : String) (operand : Option Value) :
    NeverFatal (Operand.toNumber operator operand) := by
  intro fault
  unfold Operand.toNumber
  split <;> simp

theorem arithmetic (operator : BinaryOperator) (f : Float → Float → Float)
    (left right : Option Value) : NeverFatal (Operand.arithmetic operator f left right) :=
  (toNumber _ left).bind fun _ => (toNumber _ right).bind fun _ => ok _

theorem add (left right : Option Value) : NeverFatal (Operand.add left right) := by
  unfold Operand.add
  split
  · exact ok _
  · exact arithmetic _ _ _ _

theorem divide (operator : BinaryOperator) (f : Float → Float → Float)
    (left right : Option Value) : NeverFatal (Operand.divide operator f left right) := by
  refine (toNumber _ right).bind ?_
  intro divisor
  split
  · intro fault impossible
    cases impossible
  · exact (toNumber _ left).bind fun _ => ok _

theorem unary (operator : UnaryOperator) (operand : Option Value) :
    NeverFatal (Operand.unary operator operand) := by
  cases operator with
  | not => exact ok _
  | negate => exact (toNumber _ operand).bind fun _ => ok _

theorem binary (operator : BinaryOperator) (left right : Option Value) :
    NeverFatal (Operand.binary operator left right) := by
  cases operator
  case add => exact (add left right).map some
  case subtract => exact (arithmetic _ _ left right).map some
  case multiply => exact (arithmetic _ _ left right).map some
  case divide => exact (divide _ _ left right).map some
  case remainder => exact (divide _ _ left right).map some
  all_goals exact ok _

end NeverFatal

namespace Agree

variable {α β : Type} {tolerance : Tolerance Fault}

theorem failure {failure : ExprFault} (soft : ∀ fault, failure ≠ .fatal fault) :
    Agree (α := α) tolerance.lift Eq (.error failure) (.error failure) := by
  cases failure with
  | fatal fault => exact absurd rfl (soft fault)
  | _ => exact .paired rfl

theorem neverFatal {result : Except ExprFault α} (soft : NeverFatal result) :
    Agree tolerance.lift Eq result result := by
  cases result with
  | ok x => exact .ok x
  | error cause =>
      apply failure
      intro fault fatal
      exact soft fault (congrArg _ fatal)

end Agree

namespace Scope.Alike

variable {tolerance : Tolerance Fault} {near : List Node → List Node → Prop} {a b : Scope}

theorem identifierValue (alike : Alike tolerance near a b) (name : String) :
    Expr.identifierValue a name = Expr.identifierValue b name := by
  simp only [Expr.identifierValue, alike.context, alike.props, alike.lookup]

theorem calleeOf (alike : Alike tolerance near a b) (callee : Expr) :
    Expr.calleeOf a callee = Expr.calleeOf b callee := by
  unfold Expr.calleeOf
  rw [alike.utilities]

theorem renderTarget (alike : Alike tolerance near a b) (target : Option Value) :
    Agree tolerance.lift Eq (Expr.renderTarget a target) (Expr.renderTarget b target) := by
  cases target with
  | none => exact .failure (by simp)
  | some value =>
      simp only [Expr.renderTarget]
      cases Fragment.ofValue value with
      | error cause => exact .failure (by simp)
      | ok fragment =>
          have rendered := alike.render fragment
          dsimp only
          generalize a.render fragment = first at rendered ⊢
          generalize b.render fragment = second at rendered ⊢
          cases rendered with
          | values same => subst same; exact .ok _
          | freed frees second => exact .freed (by exact frees) _
          | paired pairs => exact .paired (by exact pairs)

theorem invoke (alike : Alike tolerance near a b) (name : String) (utility : Utility)
    (arguments : List Value) :
    Agree tolerance.lift Eq (Expr.invoke a name utility arguments)
      (Expr.invoke b name utility arguments) := by
  rw [Expr.invoke, Expr.invoke, alike.receiver]
  cases utility b.receiver arguments with
  | ok value => exact .ok _
  | error message => exact .failure (by simp)

theorem expressions (alike : Alike tolerance near a b) :
    (∀ expr, Agree tolerance.lift Eq (Expr.evaluate a expr) (Expr.evaluate b expr)) ∧
      (∀ items, Agree tolerance.lift Eq (Expr.evaluateAll a items) (Expr.evaluateAll b items)) ∧
      ∀ items, Agree tolerance.lift Eq (Expr.evaluateFirst a items)
        (Expr.evaluateFirst b items) := by
  apply Expr.evaluate.mutual_induct a
  case case1 | case2 => intros; exact .ok _
  case case3 =>
    intro name
    rw [Expr.evaluate, Expr.evaluate, alike.identifierValue]
    exact .ok _
  case case4 =>
    intro object name path static
    simp only [Expr.evaluate, static, alike.lookup]
    exact .ok _
  case case5 =>
    intro object name dynamic object_agrees
    simp only [Expr.evaluate, dynamic]
    exact object_agrees.andThen fun _ => .ok _
  case case6 =>
    intro object key object_agrees key_agrees
    simp only [Expr.evaluate]
    exact object_agrees.andThen fun _ => key_agrees.andThen fun _ => .ok _
  case case7 =>
    intro callee arguments called target
    simp only [Expr.evaluate, ← alike.calleeOf, called]
    exact target.andThen alike.renderTarget
  case case8 =>
    intro callee arguments name utility called values
    simp only [Expr.evaluate, ← alike.calleeOf, called]
    exact values.andThen (alike.invoke name utility)
  case case9 =>
    intro callee arguments name called
    simp only [Expr.evaluate, ← alike.calleeOf, called]
    exact .failure (by simp)
  case case10 =>
    intro operator operand operand_agrees
    simp only [Expr.evaluate]
    exact operand_agrees.andThen fun x =>
      (Agree.neverFatal (.unary operator x)).andThen fun _ => .ok _
  case case11 | case12 =>
    intro left right left_agrees right_agrees
    simp only [Expr.evaluate]
    refine left_agrees.andThen ?_
    intro x
    split
    all_goals first | exact right_agrees | exact .ok _
  case case13 =>
    intro operator left right no_and no_or left_agrees right_agrees
    simp only [Expr.evaluate]
    exact left_agrees.andThen fun x => right_agrees.andThen fun y => .neverFatal (.binary _ x y)
  case case14 =>
    intro test consequent alternative test_agrees consequent_agrees alternative_agrees
    simp only [Expr.evaluate]
    refine test_agrees.andThen ?_
    intro x
    split
    · exact consequent_agrees
    · exact alternative_agrees
  case case15 =>
    intro items items_agree
    simp only [Expr.evaluate]
    exact items_agree.andThen fun _ => .ok _
  case case16 => exact .ok _
  case case17 =>
    intro item rest first others
    simp only [Expr.evaluateAll]
    exact first.andThen fun _ => others.andThen fun _ => .ok _
  case case18 => exact .ok _
  case case19 =>
    intro item rest first
    simpa only [Expr.evaluateFirst] using first

theorem evaluate (alike : Alike tolerance near a b) (source : String) :
    Agree tolerance.lift Eq (a.evaluate source) (b.evaluate source) := by
  unfold Scope.evaluate
  cases parse source with
  | error cause => exact .failure (by simp)
  | ok expr => exact alike.expressions.1 expr

theorem evaluateSoft (alike : Alike tolerance near a b) (source : String) :
    Agree tolerance Eq (a.evaluateSoft source) (b.evaluateSoft source) := by
  have evaluated := alike.evaluate source
  unfold Scope.evaluateSoft
  generalize a.evaluate source = first at evaluated ⊢
  generalize b.evaluate source = second at evaluated ⊢
  cases evaluated with
  | values same => exact .values same
  | freed frees second =>
      rename_i cause
      cases cause with
      | fatal fault => exact .freed (by exact frees) _
      | _ => exact False.elim frees
  | paired pairs =>
      rename_i cause other
      cases cause with
      | fatal fault =>
          cases other with
          | fatal other => exact .paired pairs
          | _ => exact False.elim pairs
      | _ => subst pairs; exact .ok none

theorem valueOf (alike : Alike tolerance near a b) (value : Value) :
    Agree tolerance Eq (a.valueOf value) (b.valueOf value) := by
  cases value with
  | string source => exact alike.evaluateSoft source
  | _ => exact alike.applyValue _

theorem binding (alike : Alike tolerance near a b) (binding : Binding) :
    Agree tolerance Eq (binding.resolve a) (binding.resolve b) := by
  cases binding with
  | literal value => cases value <;> exact .ok _
  | path dotted =>
      rw [Binding.resolve, Binding.resolve, alike.lookup]
      exact .ok _
  | expression source => exact (alike.evaluateSoft source).map present
  | call found => exact (alike.applyCall found).map present

theorem resolveEach (alike : Alike tolerance near a b) (bindings : Bindings) :
    Agree tolerance Eq (bindings.resolveEach a) (bindings.resolveEach b) := by
  induction bindings with
  | nil => exact .ok []
  | cons entry rest ih =>
      simp only [Bindings.resolveEach]
      refine (alike.binding entry.2).andThen fun value => ih.andThen ?_
      intro others
      cases value <;> exact .ok _

theorem resolve (alike : Alike tolerance near a b) (bindings : Bindings) :
    Agree tolerance Eq (bindings.resolve a) (bindings.resolve b) :=
  (alike.resolveEach bindings).map Fields.collect

theorem resolveOptional (alike : Alike tolerance near a b) (bindings : Option Bindings) :
    Agree tolerance Eq (Bindings.resolveOptional a bindings)
      (Bindings.resolveOptional b bindings) := by
  cases bindings with
  | none => exact .ok []
  | some bindings => exact alike.resolve bindings

end Scope.Alike

end MarkupTree
