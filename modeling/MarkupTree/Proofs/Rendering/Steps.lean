import MarkupTree.Binding.Resolve
import MarkupTree.Extension.Basic

/-!
What evaluation asks of the world: beside the data of its scope an expression, a call or a binding
needs no more than the answers of utilities and of nested renders. The steps of an evaluation list
what it asks for, and the answers to these decide its result.

Parts that are evaluated side by side all take their steps, also where one of them fails; a part
that waits for another takes none where that one fails.
-/

namespace MarkupTree

/-- What a node does while it renders, apart from looking up data. -/
inductive Step where
  | binding (binding : Binding)
  | extension (extension : Extension)
  | expression (source : String)
  | utility (name : String) (receiver : Receiver) (arguments : List Value)
  | nested (nodes : List Node) (props : Value)

def after {ε α : Type} (result : Except ε α) (steps : α → List Step) : List Step :=
  match result with
  | .ok x => steps x
  | .error _ => []

def Utilities.answer (utilities : Utilities) (name : String) (receiver : Receiver)
    (arguments : List Value) : Option (Except String Value) :=
  (Fields.find? utilities name).map fun utility => utility receiver arguments

namespace Scope

structure Resembles (a b : Scope) : Prop where
  context : a.context = b.context
  props : a.props = b.props
  names : ∀ name, Fields.has a.utilities name = Fields.has b.utilities name

def Answers (a b : Scope) : Step → Prop
  | .utility name receiver arguments =>
      a.utilities.answer name receiver arguments = b.utilities.answer name receiver arguments
  | .nested nodes props => a.deeper nodes props = b.deeper nodes props
  | _ => True

/-- Results are the same if the answers to the steps are. -/
def Settled {α : Type} (a b : Scope) (steps : List Step) (x y : α) : Prop :=
  (∀ step ∈ steps, Answers a b step) → x = y

namespace Settled

variable {a b : Scope} {steps : List Step} {ε α β : Type}

theorem rfl {x : α} : Settled a b steps x x := fun _ => Eq.refl x

theorem mono {others : List Step} {x y : α} (settled : Settled a b steps x y)
    (included : steps ⊆ others) : Settled a b others x y :=
  fun answers => settled fun step member => answers step (included member)

theorem map {x y : Except ε α} (settled : Settled a b steps x y) (f : α → β) :
    Settled a b steps (f <$> x) (f <$> y) := fun answers => congrArg _ (settled answers)

theorem bind {x y : Except ε α} {next : α → List Step} {f g : α → Except ε β}
    (first : Settled a b steps x y) (rest : ∀ value, Settled a b (next value) (f value) (g value)) :
    Settled a b (steps ++ after x next) (x >>= f) (y >>= g) := by
  intro answers
  rw [List.forall_mem_append] at answers
  rw [← first answers.1]
  -- Without a value the second part takes no steps, and has no say in the result.
  cases x with
  | ok value => exact rest value answers.2
  | error => exact Eq.refl _

theorem sure {x : Except ε α} {next : α → List Step} {f g : α → Except ε β}
    (rest : ∀ value, Settled a b (next value) (f value) (g value)) :
    Settled a b (after x next) (x >>= f) (x >>= g) := by
  have first : Settled a b [] x x := .rfl
  exact first.bind rest

theorem andThen {x y : Except ε α} (settled : Settled a b steps x y) (f : α → Except ε β) :
    Settled a b steps (x >>= f) (y >>= f) := fun answers => congrArg (· >>= f) (settled answers)

theorem both {x y : Except ε α} {others : List Step} {f g : α → Except ε β}
    (first : Settled a b steps x y) (rest : ∀ value, Settled a b others (f value) (g value)) :
    Settled a b (steps ++ others) (x >>= f) (y >>= g) := by
  intro answers
  rw [List.forall_mem_append] at answers
  rw [first answers.1]
  exact congrArg _ (funext fun value => rest value answers.2)

theorem mapM {steps : α → List Step} {f g : α → Except ε β} (items : List α)
    (each : ∀ item, Settled a b (steps item) (f item) (g item)) :
    Settled a b (items.flatMap steps) (items.mapM f) (items.mapM g) := by
  induction items with
  | nil => exact .rfl
  | cons item rest ih =>
      simp only [List.flatMap_cons, List.mapM_cons]
      exact (each item).both fun _ => ih.andThen _

end Settled

namespace Resembles

variable {a b : Scope}

theorem withProps (alike : Resembles a b) (props : Value) :
    Resembles (a.withProps props) (b.withProps props) :=
  { alike with props := rfl }

theorem receiver (alike : Resembles a b) : a.receiver = b.receiver := by
  simp only [Scope.receiver, alike.context, alike.props]

theorem lookup (alike : Resembles a b) (path : String) : a.lookup path = b.lookup path := by
  have hasProp (name : String) : a.hasProp name = b.hasProp name := by
    rw [Scope.hasProp, Scope.hasProp, alike.props]
  simp only [Scope.lookup, hasProp, alike.context, alike.props]

theorem unknown (alike : Resembles a b) {name : String}
    (missing : Fields.find? a.utilities name = none) : Fields.find? b.utilities name = none := by
  have same := alike.names name
  rw [Fields.has, Fields.has, missing] at same
  exact Option.isNone_iff_eq_none.mp (Option.isSome_eq_false_iff.mp same.symm)

theorem known (alike : Resembles a b) {name : String} {utility : Utility}
    (found : Fields.find? a.utilities name = some utility) :
    ∃ other, Fields.find? b.utilities name = some other ∧ ∀ receiver arguments,
      Settled a b [.utility name receiver arguments] (utility receiver arguments)
        (other receiver arguments) := by
  have same := alike.names name
  rw [Fields.has, Fields.has, found] at same
  obtain ⟨other, known⟩ := Option.isSome_iff_exists.mp same.symm
  refine ⟨other, known, ?_⟩
  intro receiver arguments answers
  have answer := answers _ (List.mem_singleton_self _)
  simp only [Answers, Utilities.answer, found, known] at answer
  exact Option.some.inj answer

end Resembles

/-! Structured calls. -/

mutual

def callSteps (scope : Scope) (call : Call) : List Step :=
  match Fields.find? scope.utilities call.utility with
  | none => []
  | some _ => parameterSteps scope call.parameters ++
      after (scope.applyParameters call.parameters) fun arguments =>
        [.utility call.utility scope.receiver arguments]
termination_by (sizeOf call.parameters, 1)

def appliedSteps (scope : Scope) (value : Value) : List Step :=
  match _found : Call.ofValue? value with
  | some call => callSteps scope call
  | none => []
termination_by (sizeOf value, 0)
decreasing_by
  have := Call.sizeOf_parameters (by assumption)
  grind

def parameterSteps (scope : Scope) : List Value → List Step
  | [] => []
  | parameter :: rest => appliedSteps scope parameter ++ parameterSteps scope rest
termination_by parameters => (sizeOf parameters, 0)
decreasing_by
  · simp only [List.cons.sizeOf_spec, Prod.lex_def]
    omega
  · simp only [List.cons.sizeOf_spec, Prod.lex_def]
    omega

end

namespace Resembles

variable {a b : Scope}

theorem calls (alike : Resembles a b) :
    (∀ call, Settled a b (a.callSteps call) (a.applyCall call) (b.applyCall call)) ∧
      (∀ parameters, Settled a b (a.parameterSteps parameters) (a.applyParameters parameters)
        (b.applyParameters parameters)) ∧
      ∀ value, Settled a b (a.appliedSteps value) (a.applyValue value) (b.applyValue value) := by
  apply Scope.applyCall.mutual_induct a
  case case1 =>
    intro call missing
    rw [Scope.applyCall, Scope.applyCall, missing, alike.unknown missing]
    exact .rfl
  case case2 =>
    intro call utility found parameters
    obtain ⟨other, known, asked⟩ := alike.known found
    rw [Scope.applyCall, Scope.applyCall, callSteps, found, known, ← alike.receiver]
    refine parameters.bind ?_
    intro arguments answers
    rw [asked a.receiver arguments answers]
  case case3 =>
    rw [Scope.applyParameters, Scope.applyParameters]
    exact .rfl
  case case4 =>
    intro parameter rest first others
    rw [Scope.applyParameters, Scope.applyParameters, parameterSteps]
    exact first.both fun value => others.andThen _
  case case5 =>
    intro value call found applied
    have same (scope : Scope) : scope.applyValue value = scope.applyCall call := by
      rw [Scope.applyValue]
      split <;> simp_all
    have steps : a.appliedSteps value = a.callSteps call := by
      rw [appliedSteps]
      split <;> simp_all
    rw [same, same, steps]
    exact applied
  case case6 =>
    intro value found
    rw [Scope.applyValue, Scope.applyValue]
    split
    · simp_all
    · exact .rfl

end Resembles

end Scope

/-! Expressions. -/

namespace Expr

def targetSteps : Option Value → List Step
  | none => []
  | some value =>
      match Fragment.ofValue value with
      | .error _ => []
      | .ok fragment => [.nested fragment.nodes .null]

mutual

def steps (scope : Scope) : Expr → List Step
  | .literal _ | .undefined | .identifier _ => []
  | .member object name =>
      match staticPath (.member object name) with
      | some _ => []
      | none => steps scope object
  | .index object key => steps scope object ++ steps scope key
  | .call callee arguments =>
      match calleeOf scope callee with
      | .render => firstSteps scope arguments ++
          after (evaluateFirst scope arguments) targetSteps
      | .utility name _ => allSteps scope arguments ++
          after (evaluateAll scope arguments) fun values => [.utility name scope.receiver values]
      | .nobody _ => []
  | .unary _ operand => steps scope operand
  | .binary .and left right => steps scope left ++
      after (evaluate scope left) fun value =>
        if Operand.isTruthy value then steps scope right else []
  | .binary .or left right => steps scope left ++
      after (evaluate scope left) fun value =>
        if Operand.isTruthy value then [] else steps scope right
  | .binary _ left right => steps scope left ++ steps scope right
  | .conditional test consequent alternative => steps scope test ++
      after (evaluate scope test) fun value =>
        if Operand.isTruthy value then steps scope consequent else steps scope alternative
  | .array items => allSteps scope items

def allSteps (scope : Scope) : List Expr → List Step
  | [] => []
  | item :: rest => steps scope item ++ allSteps scope rest

def firstSteps (scope : Scope) : List Expr → List Step
  | [] => []
  | item :: _ => steps scope item

end

end Expr

inductive Expr.Callee.Alike (a b : Scope) : Callee → Callee → Prop
  | render : Alike a b .render .render
  | nobody (name : String) : Alike a b (.nobody name) (.nobody name)
  | utility (name : String) {utility other : Utility} (asked : ∀ arguments,
      Scope.Settled a b [.utility name a.receiver arguments] (invoke a name utility arguments)
        (invoke b name other arguments)) : Alike a b (.utility name utility) (.utility name other)

namespace Scope

def expressionSteps (scope : Scope) (source : String) : List Step :=
  .expression source ::
    match parse source with
    | .error _ => []
    | .ok expr => expr.steps scope

def valueSteps (scope : Scope) : Value → List Step
  | .string source => scope.expressionSteps source
  | value => scope.appliedSteps value

namespace Resembles

variable {a b : Scope}

theorem identifierValue (alike : Resembles a b) (name : String) :
    Expr.identifierValue a name = Expr.identifierValue b name := by
  simp only [Expr.identifierValue, alike.context, alike.props, alike.lookup]

theorem named (alike : Resembles a b) (name : String) :
    (Fields.find? a.utilities name = none ∧ Fields.find? b.utilities name = none) ∨
      ∃ utility other, Fields.find? a.utilities name = some utility ∧
        Fields.find? b.utilities name = some other ∧ ∀ arguments,
          Settled a b [.utility name a.receiver arguments] (Expr.invoke a name utility arguments)
            (Expr.invoke b name other arguments) := by
  cases found : Fields.find? a.utilities name with
  | none => exact .inl ⟨rfl, alike.unknown found⟩
  | some utility =>
      obtain ⟨other, known, asked⟩ := alike.known found
      refine .inr ⟨utility, other, rfl, known, ?_⟩
      intro arguments answers
      rw [Expr.invoke, Expr.invoke, asked _ _ answers, alike.receiver]

theorem renderTarget (target : Option Value) :
    Settled a b (Expr.targetSteps target) (Expr.renderTarget a target)
      (Expr.renderTarget b target) := by
  intro answers
  cases target with
  | none => rfl
  | some value =>
      simp only [Expr.targetSteps, Expr.renderTarget] at answers ⊢
      generalize Fragment.ofValue value = read at answers
      cases read with
      | error cause => rfl
      | ok fragment =>
          have same : a.render fragment = b.render fragment :=
            answers (.nested fragment.nodes .null) (List.mem_singleton_self _)
          simp only [same]

theorem calleeOf (alike : Resembles a b) (callee : Expr) :
    Expr.Callee.Alike a b (Expr.calleeOf a callee) (Expr.calleeOf b callee) := by
  unfold Expr.calleeOf
  split
  · split
    · exact .render
    · rename_i name _
      rcases alike.named name with ⟨first, second⟩ | ⟨utility, other, first, second, asked⟩
      · rw [first, second]
        exact .nobody name
      · rw [first, second]
        exact .utility name asked
  · split
    · rename_i name _
      rcases alike.named name with ⟨first, second⟩ | ⟨utility, other, first, second, asked⟩
      · rw [first, second]
        exact .nobody name
      · rw [first, second]
        exact .utility name asked
    · exact .nobody _
  · exact .nobody _
  · exact .nobody _

theorem expressions (alike : Resembles a b) :
    (∀ expr, Settled a b (expr.steps a) (Expr.evaluate a expr) (Expr.evaluate b expr)) ∧
      (∀ items, Settled a b (Expr.allSteps a items) (Expr.evaluateAll a items)
        (Expr.evaluateAll b items)) ∧
      ∀ items, Settled a b (Expr.firstSteps a items) (Expr.evaluateFirst a items)
        (Expr.evaluateFirst b items) := by
  apply Expr.evaluate.mutual_induct a
  case case1 | case2 => intros; exact .rfl
  case case3 =>
    intro name
    rw [Expr.evaluate, Expr.evaluate, alike.identifierValue]
    exact .rfl
  case case4 =>
    intro object name path static
    simp only [Expr.evaluate, static, alike.lookup]
    exact .rfl
  case case5 =>
    intro object name dynamic ofObject
    simp only [Expr.evaluate, Expr.steps, dynamic]
    exact ofObject.andThen _
  case case6 =>
    intro object key ofObject ofKey
    simp only [Expr.evaluate, Expr.steps]
    exact ofObject.both fun _ => ofKey.andThen _
  case case7 =>
    intro callee arguments called target
    have other := alike.calleeOf callee
    rw [called] at other
    generalize reached : Expr.calleeOf b callee = found at other
    cases other
    simp only [Expr.evaluate, Expr.steps, called, reached]
    exact target.bind renderTarget
  case case8 =>
    intro callee arguments name utility called values
    have other := alike.calleeOf callee
    rw [called] at other
    generalize reached : Expr.calleeOf b callee = found at other
    cases other with
    | utility _ asked =>
        simp only [Expr.evaluate, Expr.steps, called, reached]
        exact values.bind asked
  case case9 =>
    intro callee arguments name called
    have other := alike.calleeOf callee
    rw [called] at other
    generalize reached : Expr.calleeOf b callee = found at other
    cases other
    simp only [Expr.evaluate, called, reached]
    exact .rfl
  case case10 =>
    intro operator operand ofOperand
    simp only [Expr.evaluate, Expr.steps]
    exact ofOperand.andThen _
  case case11 | case12 =>
    intro left right ofLeft ofRight
    simp only [Expr.evaluate, Expr.steps]
    refine ofLeft.bind ?_
    intro value
    split
    all_goals first | exact ofRight | exact .rfl
  case case13 =>
    intro operator left right no_and no_or ofLeft ofRight
    have steps : Expr.steps a (.binary operator left right) = left.steps a ++ right.steps a := by
      cases operator <;> simp_all [Expr.steps]
    simp only [Expr.evaluate, steps]
    exact ofLeft.both fun _ => ofRight.andThen _
  case case14 =>
    intro test consequent alternative ofTest ofConsequent ofAlternative
    simp only [Expr.evaluate, Expr.steps]
    refine ofTest.bind ?_
    intro value
    split
    · exact ofConsequent
    · exact ofAlternative
  case case15 =>
    intro items ofItems
    simp only [Expr.evaluate, Expr.steps]
    exact ofItems.andThen _
  case case16 => exact .rfl
  case case17 =>
    intro item rest first others
    simp only [Expr.evaluateAll, Expr.allSteps]
    exact first.both fun _ => others.andThen _
  case case18 => exact .rfl
  case case19 =>
    intro item rest first
    simpa only [Expr.evaluateFirst, Expr.firstSteps] using first

theorem evaluateSoft (alike : Resembles a b) (source : String) :
    Settled a b (a.expressionSteps source) (a.evaluateSoft source) (b.evaluateSoft source) := by
  have evaluated : Settled a b (a.expressionSteps source) (a.evaluate source)
      (b.evaluate source) := by
    unfold Scope.evaluate expressionSteps
    cases parse source with
    | error cause => exact .rfl
    | ok expr => exact (alike.expressions.1 expr).mono (List.subset_cons_self _ _)
  intro answers
  rw [Scope.evaluateSoft, Scope.evaluateSoft, evaluated answers]

theorem valueOf (alike : Resembles a b) (value : Value) :
    Settled a b (a.valueSteps value) (a.valueOf value) (b.valueOf value) := by
  cases value with
  | string source => exact alike.evaluateSoft source
  | _ => exact alike.calls.2.2 _

end Resembles

end Scope

/-! Bindings. -/

def Binding.steps (scope : Scope) (binding : Binding) : List Step :=
  .binding binding ::
    match binding with
    | .literal _ | .path _ => []
    | .expression source => scope.expressionSteps source
    | .call found => scope.callSteps found

def Bindings.steps (scope : Scope) (bindings : Bindings) : List Step :=
  bindings.flatMap fun entry => entry.2.steps scope

namespace Scope.Resembles

variable {a b : Scope}

theorem binding (alike : Resembles a b) (binding : Binding) :
    Settled a b (binding.steps a) (binding.resolve a) (binding.resolve b) := by
  cases binding with
  | literal value => cases value <;> exact .rfl
  | path dotted =>
      rw [Binding.resolve, Binding.resolve, alike.lookup]
      exact .rfl
  | expression source =>
      exact ((alike.evaluateSoft source).map present).mono (List.subset_cons_self _ _)
  | call found => exact ((alike.calls.1 found).map present).mono (List.subset_cons_self _ _)

theorem resolve (alike : Resembles a b) (bindings : Bindings) :
    Settled a b (bindings.steps a) (bindings.resolve a) (bindings.resolve b) := by
  refine Settled.map ?_ Fields.collect
  induction bindings with
  | nil => exact .rfl
  | cons entry rest ih =>
      simp only [Bindings.steps, List.flatMap_cons, Bindings.resolveEach] at ih ⊢
      exact (alike.binding entry.2).both fun _ => ih.andThen _

theorem resolveOptional (alike : Resembles a b) (bindings : Option Bindings) :
    Settled a b (Bindings.steps a (bindings.getD [])) (Bindings.resolveOptional a bindings)
      (Bindings.resolveOptional b bindings) := by
  cases bindings with
  | none => exact .rfl
  | some bindings => exact alike.resolve bindings

end Scope.Resembles

end MarkupTree
