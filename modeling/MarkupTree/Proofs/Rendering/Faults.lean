import Mathlib
import MarkupTree.Proofs.Rendering.Nodes

/-!
Why renders fail. A fault comes out of an expression only if a nested render raised it, and out of a
structured call only if it names an unknown utility; everything else that goes wrong leaves a value
undefined. So every fault of a render tells of the configuration of its renderer.
-/

namespace MarkupTree

variable {ε α β : Type}

/-- Whatever goes wrong is of this kind. -/
def FailsOnly (kind : ε → Prop) (result : Except ε α) : Prop :=
  ∀ cause, result = .error cause → kind cause

namespace FailsOnly

variable {kind : ε → Prop}

theorem ok (x : α) : FailsOnly kind (.ok x) := by
  intro cause failed
  cases failed

theorem error {cause : ε} (allowed : kind cause) : FailsOnly (α := α) kind (.error cause) := by
  intro other failed
  cases failed
  exact allowed

theorem mono {wider : ε → Prop} {result : Except ε α} (fails : FailsOnly kind result)
    (included : ∀ cause, kind cause → wider cause) : FailsOnly wider result :=
  fun cause failed => included cause (fails cause failed)

theorem bind {result : Except ε α} {next : α → Except ε β} (first : FailsOnly kind result)
    (each : ∀ x, FailsOnly kind (next x)) : FailsOnly kind (result >>= next) := by
  cases result with
  | ok x => exact each x
  | error cause => exact error (first cause rfl)

theorem map {result : Except ε α} (fails : FailsOnly kind result) (f : α → β) :
    FailsOnly kind (f <$> result) := by
  cases result with
  | ok x => exact ok (f x)
  | error cause => exact error (fails cause rfl)

theorem mapM {f : α → Except ε β} {items : List α} (each : ∀ item ∈ items, FailsOnly kind (f item)) :
    FailsOnly kind (items.mapM f) := by
  induction items with
  | nil => exact ok []
  | cons item rest ih =>
      obtain ⟨own, others⟩ := List.forall_mem_cons.mp each
      rw [List.mapM_cons]
      exact own.bind fun part => (ih others).bind fun parts => ok _

end FailsOnly

def Tolerance.only (kind : ε → Prop) : Tolerance ε where
  frees := kind
  pairs _ _ := False

theorem FailsOnly.of_agree {kind : ε → Prop} {related : α → β → Prop} {result : Except ε α}
    {other : Except ε β} (agree : Agree (.only kind) related result other) :
    FailsOnly kind result := by
  intro cause failed
  subst failed
  cases agree with
  | freed frees => exact frees
  | paired pairs => exact False.elim pairs

def ExprFault.StemsFrom (origin : Fault → Prop) : ExprFault → Prop
  | .fatal fault => origin fault
  | _ => True

theorem FailsOnly.of_neverFatal {origin : Fault → Prop} {result : Except ExprFault α}
    (soft : NeverFatal result) : FailsOnly (ExprFault.StemsFrom origin) result := by
  intro cause failed
  cases cause with
  | fatal fault => exact absurd failed (soft fault)
  | _ => trivial

namespace Expr

mutual

/-- A call of `render` stands somewhere in an expression. -/
def callsRender : Expr → Bool
  | .literal _ | .undefined | .identifier _ => false
  | .member object _ => object.callsRender
  | .index object key => object.callsRender || key.callsRender
  | .call (.identifier name) arguments => name = "render" || anyCallsRender arguments
  | .call callee arguments => callee.callsRender || anyCallsRender arguments
  | .unary _ operand => operand.callsRender
  | .binary _ left right => left.callsRender || right.callsRender
  | .conditional test consequent alternative =>
      test.callsRender || consequent.callsRender || alternative.callsRender
  | .array items => anyCallsRender items

def anyCallsRender : List Expr → Bool
  | [] => false
  | item :: rest => item.callsRender || anyCallsRender rest

end

theorem callsRender_of_arguments (callee : Expr) {arguments : List Expr}
    (within : anyCallsRender arguments = true) : (call callee arguments).callsRender = true := by
  cases callee <;> simp [callsRender, within]

theorem callsRender_of_calleeOf {scope : Scope} {callee : Expr}
    (called : calleeOf scope callee = .render) (arguments : List Expr) :
    (call callee arguments).callsRender = true := by
  unfold calleeOf at called
  split at called
  · split at called
    · rename_i same
      simp [callsRender, same]
    · split at called <;> cases called
  · split at called
    · split at called <;> cases called
    · cases called
  · cases called
  · cases called

end Expr

namespace Scope

variable (scope : Scope)

def Raises (fault : Fault) : Prop := ∃ nodes props, scope.deeper nodes props = .error fault

def Lacks (fault : Fault) : Prop :=
  ∃ name, fault = .utilityNotFound name ∧ Fields.find? scope.utilities name = none

theorem renderTarget_failsOnly (target : Option Value) :
    FailsOnly (ExprFault.StemsFrom scope.Raises) (Expr.renderTarget scope target) := by
  unfold Expr.renderTarget
  split
  · exact .error trivial
  · split
    · exact .error trivial
    · rename_i fragment _
      split
      · rename_i fault nested
        exact .error ⟨fragment.nodes, .null, nested⟩
      · exact .ok _

theorem invoke_failsOnly {origin : Fault → Prop} (name : String) (utility : Utility)
    (arguments : List Value) :
    FailsOnly (ExprFault.StemsFrom origin) (Expr.invoke scope name utility arguments) := by
  unfold Expr.invoke
  split
  · exact .ok _
  · exact .error trivial

def Permits (origin : Fault → Prop) (renders : Bool) : Prop :=
  renders = true → ∀ fault, scope.Raises fault → origin fault

variable {scope} in
theorem Permits.part {origin : Fault → Prop} {whole part : Bool} (permits : scope.Permits origin whole)
    (within : part = true → whole = true) : scope.Permits origin part :=
  fun renders => permits (within renders)

theorem expressions_failOnly {origin : Fault → Prop} :
    (∀ expr, scope.Permits origin expr.callsRender →
        FailsOnly (ExprFault.StemsFrom origin) (Expr.evaluate scope expr)) ∧
      (∀ items, scope.Permits origin (Expr.anyCallsRender items) →
        FailsOnly (ExprFault.StemsFrom origin) (Expr.evaluateAll scope items)) ∧
      ∀ items, scope.Permits origin (Expr.anyCallsRender items) →
        FailsOnly (ExprFault.StemsFrom origin) (Expr.evaluateFirst scope items) := by
  apply Expr.evaluate.mutual_induct scope
  case case1 | case2 | case3 | case16 | case18 => intros; exact .ok _
  case case4 =>
    intro object name path static _
    simp only [Expr.evaluate, static]
    exact .ok _
  case case5 =>
    intro object name dynamic object_fails permits
    simp only [Expr.evaluate, dynamic]
    exact (object_fails permits).bind fun _ => .ok _
  case case6 =>
    intro object key object_fails key_fails permits
    simp only [Expr.evaluate]
    exact (object_fails (permits.part (by simp +contextual [Expr.callsRender]))).bind fun _ =>
      (key_fails (permits.part (by simp +contextual [Expr.callsRender]))).bind fun _ => .ok _
  case case7 =>
    intro callee arguments called target permits
    simp only [Expr.evaluate, called]
    have rendered := permits (Expr.callsRender_of_calleeOf called arguments)
    refine (target (permits.part (Expr.callsRender_of_arguments callee))).bind fun value => ?_
    refine (scope.renderTarget_failsOnly value).mono fun cause stems => ?_
    cases cause with
    | fatal fault => exact rendered fault stems
    | _ => trivial
  case case8 =>
    intro callee arguments name utility called values permits
    simp only [Expr.evaluate, called]
    exact (values (permits.part (Expr.callsRender_of_arguments callee))).bind
      (scope.invoke_failsOnly name utility)
  case case9 =>
    intro callee arguments name called _
    simp only [Expr.evaluate, called]
    exact .error trivial
  case case10 =>
    intro operator operand operand_fails permits
    simp only [Expr.evaluate]
    exact (operand_fails permits).bind fun x =>
      (FailsOnly.of_neverFatal (.unary operator x)).bind fun _ => .ok _
  case case11 | case12 =>
    intro left right left_fails right_fails permits
    simp only [Expr.evaluate]
    refine (left_fails (permits.part (by simp +contextual [Expr.callsRender]))).bind ?_
    intro x
    have right := right_fails (permits.part (by simp +contextual [Expr.callsRender]))
    split
    all_goals first | exact right | exact .ok _
  case case13 =>
    intro operator left right no_and no_or left_fails right_fails permits
    simp only [Expr.evaluate]
    exact (left_fails (permits.part (by simp +contextual [Expr.callsRender]))).bind fun x =>
      (right_fails (permits.part (by simp +contextual [Expr.callsRender]))).bind fun y =>
        .of_neverFatal (.binary _ x y)
  case case14 =>
    intro test consequent alternative test_fails consequent_fails alternative_fails permits
    simp only [Expr.evaluate]
    refine (test_fails (permits.part (by simp +contextual [Expr.callsRender]))).bind ?_
    intro x
    split
    · exact consequent_fails (permits.part (by simp +contextual [Expr.callsRender]))
    · exact alternative_fails (permits.part (by simp +contextual [Expr.callsRender]))
  case case15 =>
    intro items items_fail permits
    simp only [Expr.evaluate]
    exact (items_fail permits).bind fun _ => .ok _
  case case17 =>
    intro item rest first others permits
    simp only [Expr.evaluateAll]
    exact (first (permits.part (by simp +contextual [Expr.anyCallsRender]))).bind fun _ =>
      (others (permits.part (by simp +contextual [Expr.anyCallsRender]))).bind fun _ => .ok _
  case case19 =>
    intro item rest first permits
    simpa only [Expr.evaluateFirst] using
      first (permits.part (by simp +contextual [Expr.anyCallsRender]))

theorem evaluateSoft_failsOnly_of_permits {origin : Fault → Prop} {source : String}
    (permits : ∀ expr, parse source = .ok expr → scope.Permits origin expr.callsRender) :
    FailsOnly origin (scope.evaluateSoft source) := by
  have stems : FailsOnly (ExprFault.StemsFrom origin) (scope.evaluate source) := by
    unfold evaluate
    split
    · exact .error trivial
    · rename_i expr parsed
      exact scope.expressions_failOnly.1 expr (permits expr parsed)
  unfold evaluateSoft
  split
  · exact .ok _
  · rename_i fault failed
    exact .error (stems _ failed)
  · exact .ok _

theorem evaluateSoft_failsOnly (source : String) :
    FailsOnly scope.Raises (scope.evaluateSoft source) :=
  scope.evaluateSoft_failsOnly_of_permits fun _ _ _ _ raised => raised

theorem calls_failOnly :
    (∀ call, FailsOnly scope.Lacks (scope.applyCall call)) ∧
      (∀ parameters, FailsOnly scope.Lacks (scope.applyParameters parameters)) ∧
      ∀ value, FailsOnly scope.Lacks (scope.applyValue value) := by
  have missing (name : String) (unknown : Fields.find? scope.utilities name = none) :
      (Tolerance.only scope.Lacks).Covers (.utilityNotFound name) := .inl ⟨name, rfl, unknown⟩
  obtain ⟨calls, parameters, values⟩ := calls_agree rfl rfl missing
  exact ⟨fun call => .of_agree (calls call), fun given => .of_agree (parameters given),
    fun value => .of_agree (values value)⟩

end Scope

namespace Renderer

variable (renderer : Renderer)

/-- What a fault of a render says of its renderer. -/
def Justifies : Fault → Prop
  | .componentNotFound name =>
      (∃ first rest, name.toList = first :: rest ∧ Text.isUppercase first = true) ∧
        Text.upper name.toList ≠ name.toList ∧ name ∉ Fields.names renderer.components
  | .utilityNotFound name => name ∉ Fields.names renderer.utilities
  | .recursionLimit limit _ => limit = renderer.options.maxDepth
  | .iterationSource _ found =>
      .foreach ∈ renderer.extensions ∧ found.name ≠ "array" ∧ found.name ≠ "null"
  | .invalidTree _ => .foreach ∈ renderer.extensions

variable {renderer}

theorem Raises.justifies {fault : Fault} (raised : renderer.Raises fault) :
    renderer.Justifies fault := by
  cases raised with
  | @component name named unknown =>
      unfold isComponentName at named
      split at named
      · cases named
      · rename_i first rest letters
        obtain ⟨capital, mixed⟩ := Bool.and_eq_true_iff.mp named
        refine ⟨⟨first, rest, letters, capital⟩, ?_, Fields.find?_eq_none_iff.mp unknown⟩
        rw [letters]
        exact fun same => bne_iff_ne.mp mixed same.symm
  | utility unknown => exact Fields.find?_eq_none_iff.mp unknown
  | @source text found iterates noArray notNull =>
      refine ⟨iterates, ?_, ?_⟩ <;> cases found <;> simp_all [Kind.name]
  | tree iterates => exact iterates

def MayRaise (renderer : Renderer) (scope : Scope) (fault : Fault) : Prop :=
  scope.Raises fault ∨ renderer.Raises fault

theorem renderNode_failsOnly (canonical : renderer.Canonical)
    (deeper : List Node → Value → Except Fault String) (depth : Nat) (props : Value) (node : Node) :
    FailsOnly (renderer.MayRaise (renderer.scope deeper depth props))
      (renderer.renderNode (renderer.scope deeper depth props) node) := by
  have covers (fault : Fault) (raised : renderer.Raises fault) :
      (Tolerance.only (renderer.MayRaise (renderer.scope deeper depth props))).Covers fault :=
    .inl (Or.inr raised)
  have alike : Scope.Alike (.only (renderer.MayRaise (renderer.scope deeper depth props))) Eq
      (renderer.scope deeper depth props) (renderer.scope deeper depth props) := by
    refine
      { context := rfl, utilities := rfl, props := rfl
        missing := fun _ unknown => covers _ (.utility unknown)
        itself := fun _ => rfl
        deeper := ?_ }
    rintro items _ rfl inner
    -- A fault from below may be any one; all others the node has to raise by itself.
    cases nested : (renderer.scope deeper depth props).deeper items inner with
    | ok markup => exact .ok markup
    | error fault => exact .freed (by exact .inl ⟨items, inner, nested⟩) _
  exact .of_agree (alike.renderNode covers canonical (.refl Eq node))

theorem renderLevels_failsOnly (canonical : renderer.Canonical) (levels : Nat) (nodes : List Node)
    (props : Value) :
    FailsOnly (fun fault => renderer.Raises fault ∨
      ∃ element, fault = .recursionLimit renderer.options.maxDepth element)
      (renderer.renderLevels levels nodes props) := by
  induction levels generalizing nodes props with
  | zero =>
      cases nodes with
      | nil => exact .ok ""
      | cons node rest => exact .error (.inr ⟨node.element, rfl⟩)
  | succ levels ih =>
      refine FailsOnly.bind (.mapM fun node _ => ?_) fun parts => .ok _
      intro fault failed
      rcases renderNode_failsOnly canonical _ _ props node fault failed with
        ⟨items, inner, nested⟩ | raised
      · exact ih items inner fault nested
      · exact .inl raised

/--
Every fault of a render says something true of its renderer. A node fails by itself or through a
nested render, an expression only through a nested render, and a call only by an unknown utility: no
source that does not parse, no operand of a wrong kind, no name that cannot be called, no value that
is no tree and no utility that fails ends a render.
-/
theorem render_fault_justified (canonical : renderer.Canonical) :
    (∀ tree props fault, renderer.render tree props = .error fault → renderer.Justifies fault) ∧
    (∀ deeper depth props node fault,
      renderer.renderNode (renderer.scope deeper depth props) node = .error fault →
      (∃ nodes inner, deeper nodes inner = .error fault) ∨ renderer.Justifies fault) ∧
    ∀ scope : Scope,
      (∀ source fault, scope.evaluateSoft source = .error fault →
        ∃ nodes props, scope.deeper nodes props = .error fault) ∧
      ∀ call fault, scope.applyCall call = .error fault →
        ∃ name, fault = .utilityNotFound name ∧ name ∉ Fields.names scope.utilities := by
  refine ⟨?_, ?_, fun scope => ⟨scope.evaluateSoft_failsOnly, ?_⟩⟩
  · intro tree props fault failed
    rcases renderLevels_failsOnly canonical _ tree.nodes props fault failed with
      raised | ⟨element, rfl⟩
    · exact raised.justifies
    · rfl
  · intro deeper depth props node fault failed
    rcases renderNode_failsOnly canonical deeper depth props node fault failed with nested | raised
    · exact .inl nested
    · exact .inr raised.justifies
  · intro call fault failed
    obtain ⟨name, same, unknown⟩ := scope.calls_failOnly.1 call fault failed
    exact ⟨name, same, Fields.find?_eq_none_iff.mp unknown⟩

def shelf : Renderer where
  components := [("Shelf", .one { fields := [("foreach", .array [.string "books",
    .object [("element", .string "li"), ("attributes", .object [("==title", .string "("),
      ("cover", .object [("utility", .string "draw")])])]])] })]
  extensions := Extension.canonical
  context := .object [("books", .array [.string "a"])]

theorem shelf_render :
    shelf.render (.one (.ofElement "Shelf")) .null = .error (.utilityNotFound "draw") := by
  cbv

theorem shelf_fault_justified :
    shelf.Canonical ∧
      shelf.render (.one (.ofElement "Shelf")) .null = .error (.utilityNotFound "draw") ∧
      "draw" ∉ Fields.names shelf.utilities := by
  have canonical : shelf.Canonical := canonical_of_extensions rfl
  exact ⟨canonical, shelf_render, (render_fault_justified canonical).1 _ _ _ shelf_render⟩

end Renderer

end MarkupTree
