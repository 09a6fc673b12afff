import Mathlib
import MarkupTree.Binding.Resolve
import MarkupTree.Proofs.Rendering.Calls
import MarkupTree.Proofs.Syntax.Writing

/-!
Structured calls as expressions. A call whose plain parameters are literals can be written as the
source of a call expression; the two mean the same, as long as no call among the parameters fails.
-/

namespace MarkupTree

inductive Value.IsLiteral : Value → Prop
  | null : IsLiteral .null
  | bool (flag : Bool) : IsLiteral (.bool flag)
  | string (text : String) : IsLiteral (.string text)
  | array {items : List Value} (each : ∀ item ∈ items, item.IsLiteral) : IsLiteral (.array items)

namespace Value

mutual

def literal (quote : Char) : Value → String
  | .null => String.ofList Keyword.null.spelling
  | .bool flag => String.ofList (Keyword.bool flag).spelling
  | .string text => String.ofList (Quoted.encode quote text.toList)
  | .array items => "[" ++ String.intercalate ", " (literals quote items) ++ "]"
  | .number _ | .object _ => ""

def literals (quote : Char) : List Value → List String
  | [] => []
  | item :: rest => item.literal quote :: literals quote rest

end

theorem literals_eq_map (quote : Char) (items : List Value) :
    literals quote items = items.map (literal quote) := by
  induction items with
  | nil => rfl
  | cons item rest ih => rw [literals, ih, List.map_cons]

end Value

namespace Call

mutual

/-- The call expression for a call: its utility under `utilities`, and its parameters in order. -/
def source (quote : Char) (call : Call) : String :=
  "utilities." ++ call.utility ++ "(" ++
    String.intercalate ", " (parameterSources quote call.parameters) ++ ")"
termination_by (sizeOf call.parameters, 1)

def parameterSource (quote : Char) (parameter : Value) : String :=
  match _found : ofValue? parameter with
  | some inner => inner.source quote
  | none => parameter.literal quote
termination_by (sizeOf parameter, 0)
decreasing_by
  have := sizeOf_parameters (by assumption)
  grind

def parameterSources (quote : Char) : List Value → List String
  | [] => []
  | parameter :: rest => parameterSource quote parameter :: parameterSources quote rest
termination_by parameters => (sizeOf parameters, 0)
decreasing_by
  · simp only [List.cons.sizeOf_spec, Prod.lex_def]
    omega
  · simp only [List.cons.sizeOf_spec, Prod.lex_def]
    omega

end

section

variable {quote : Char} {parameter : Value}

theorem parameterSource_of_call {inner : Call} (found : ofValue? parameter = some inner) :
    parameterSource quote parameter = inner.source quote := by
  rw [parameterSource]
  split <;> simp_all

theorem parameterSource_of_plain (plain : ofValue? parameter = none) :
    parameterSource quote parameter = parameter.literal quote := by
  rw [parameterSource]
  split <;> simp_all

end

/-- A call that can be written as an expression. -/
def Sayable (call : Call) : Prop :=
  call.Throughout fun part => Lexer.IsWord part.utility.toList ∧
    ∀ parameter ∈ part.parameters, ofValue? parameter = none → parameter.IsLiteral

/-- No call among the parameters of a call fails, and none among theirs. -/
def ParametersSucceed (scope : Scope) (call : Call) : Prop :=
  ∀ parameter ∈ call.parameters, ∀ inner, ofValue? parameter = some inner →
    inner.Throughout fun part => scope.applyCall part ≠ .ok none

end Call

namespace Scope

variable {scope : Scope} {quote : Char}

/-- A text is written for an expression that has this value. -/
def Denotes (scope : Scope) (text : String) (value : Value) : Prop :=
  ∃ expr, Writes text expr ∧ expr.evaluate scope = .ok (some value)

theorem exists_evaluateAll_eq_ok {texts : List String} {values : List Value}
    (denoted : List.Forall₂ scope.Denotes texts values) :
    ∃ exprs, List.Forall₂ Writes texts exprs ∧ Expr.evaluateAll scope exprs = .ok values := by
  induction denoted with
  | nil => exact ⟨[], .nil, by rw [Expr.evaluateAll]⟩
  | cons own others ih =>
      obtain ⟨expr, written, evaluated⟩ := own
      obtain ⟨exprs, allWritten, allEvaluated⟩ := ih
      refine ⟨expr :: exprs, .cons written allWritten, ?_⟩
      rw [Expr.evaluateAll, evaluated, allEvaluated]
      rfl

theorem denotes_literal (kind : quote = '"' ∨ quote = '\'') {value : Value}
    (isLiteral : value.IsLiteral) : scope.Denotes (value.literal quote) value := by
  induction isLiteral with
  | null => exact ⟨_, Writes.keyword .null, by rw [Parser.keywordExpr, Expr.evaluate]⟩
  | bool flag => exact ⟨_, Writes.keyword (.bool flag), by rw [Parser.keywordExpr, Expr.evaluate]⟩
  | string text => exact ⟨_, Writes.quoted kind text, by rw [Expr.evaluate]⟩
  | @array items each ih =>
      have denoted : List.Forall₂ scope.Denotes (Value.literals quote items) items := by
        rw [Value.literals_eq_map, List.forall₂_map_left_iff, List.forall₂_same]
        exact ih
      obtain ⟨exprs, written, evaluated⟩ := exists_evaluateAll_eq_ok denoted
      refine ⟨_, Writes.array written, ?_⟩
      rw [Expr.evaluate, evaluated]
      rfl

theorem exists_arguments {parameters : List Value}
    (each : ∀ parameter ∈ parameters, ∃ value,
      scope.Denotes (Call.parameterSource quote parameter) value ∧
        scope.applyValue parameter = .ok (some value)) :
    ∃ arguments, List.Forall₂ scope.Denotes (Call.parameterSources quote parameters) arguments ∧
      scope.applyParameters parameters = .ok arguments := by
  induction parameters with
  | nil => exact ⟨[], by rw [Call.parameterSources]; exact .nil, by rw [applyParameters]⟩
  | cons parameter rest ih =>
      obtain ⟨own, others⟩ := List.forall_mem_cons.mp each
      obtain ⟨value, denoted, applied⟩ := own
      obtain ⟨arguments, allDenoted, allApplied⟩ := ih others
      refine ⟨value :: arguments, ?_, ?_⟩
      · rw [Call.parameterSources]
        exact .cons denoted allDenoted
      · rw [applyParameters, applied, allApplied]
        rfl

theorem evaluate_call {name : String} {utility : Utility}
    (known : Fields.find? scope.utilities name = some utility) {exprs : List Expr}
    {arguments : List Value} (evaluated : Expr.evaluateAll scope exprs = .ok arguments) :
    (Expr.call (.member (.identifier "utilities") name) exprs).evaluate scope =
      Expr.invoke scope name utility arguments := by
  have called : Expr.calleeOf scope (.member (.identifier "utilities") name) =
      .utility name utility := by
    rw [Expr.calleeOf, if_pos rfl, known]
  rw [Expr.evaluate, called, evaluated]
  rfl

theorem exists_denotes_of_invoke {text : String} {expr : Expr} {call : Call} {utility : Utility}
    {arguments : List Value} (written : Writes text expr)
    (evaluated : expr.evaluate scope = Expr.invoke scope call.utility utility arguments)
    (applied : scope.applyCall call = .ok (utility scope.receiver arguments).toOption)
    (succeeds : scope.applyCall call ≠ .ok none) :
    ∃ value, scope.Denotes text value ∧ scope.applyCall call = .ok (some value) := by
  cases invoked : utility scope.receiver arguments with
  | error message =>
      rw [invoked] at applied
      exact absurd applied succeeds
  | ok value =>
      rw [invoked] at applied
      rw [Expr.invoke, invoked] at evaluated
      exact ⟨value, ⟨expr, written, evaluated⟩, applied⟩

theorem exists_writes_source (kind : quote = '"' ∨ quote = '\'') {call : Call}
    (sayable : call.Sayable) (registered : call.Registered scope.utilities)
    (succeed : call.ParametersSucceed scope) :
    ∃ expr utility arguments, Writes (call.source quote) expr ∧
      Fields.find? scope.utilities call.utility = some utility ∧
      scope.applyParameters call.parameters = .ok arguments ∧
      expr.evaluate scope = Expr.invoke scope call.utility utility arguments := by
  -- The induction is on the calls that are nested in the call as parameters.
  induction sayable with
  | @of call own nested ih =>
      have each (parameter : Value) (given : parameter ∈ call.parameters) : ∃ value,
          scope.Denotes (Call.parameterSource quote parameter) value ∧
            scope.applyValue parameter = .ok (some value) := by
        cases found : Call.ofValue? parameter with
        | none =>
            rw [Call.parameterSource_of_plain found]
            exact ⟨parameter, denotes_literal kind (own.2 parameter given found),
              applyValue_of_plain found⟩
        | some inner =>
            have innerSucceeds := succeed parameter given inner found
            obtain ⟨expr, utility, arguments, written, known, applied, evaluated⟩ :=
              ih parameter given inner found (registered.nested given found)
                fun _ deeper _ => innerSucceeds.nested deeper
            rw [Call.parameterSource_of_call found, applyValue_of_call found]
            exact exists_denotes_of_invoke written evaluated (applyCall_eq_ok known applied)
              innerSucceeds.own
      obtain ⟨utility, known⟩ := Option.isSome_iff_exists.mp registered.own
      obtain ⟨arguments, denoted, applied⟩ := exists_arguments each
      obtain ⟨exprs, written, evaluated⟩ := exists_evaluateAll_eq_ok denoted
      refine ⟨_, utility, arguments, ?_, known, applied, evaluate_call known evaluated⟩
      rw [Call.source]
      exact .call own.1 written

/--
A structured call and the call expression that is written for it give the same utility the same
arguments. Both come to its value if it succeeds and to nothing if it fails, so a binding may have
either.
-/
theorem evaluateSoft_source_eq_applyCall (kind : quote = '"' ∨ quote = '\'') {call : Call}
    (sayable : call.Sayable) (registered : call.Registered scope.utilities)
    (succeed : call.ParametersSucceed scope)
    (shallow : ¬ Parser.TooDeep (parse (call.source quote))) :
    ∃ utility arguments, Fields.find? scope.utilities call.utility = some utility ∧
      scope.applyParameters call.parameters = .ok arguments ∧
      scope.applyCall call = .ok (utility scope.receiver arguments).toOption ∧
      scope.evaluateSoft (call.source quote) = .ok (utility scope.receiver arguments).toOption ∧
      (Binding.expression (call.source quote)).resolve scope =
        (Binding.call call).resolve scope := by
  obtain ⟨expr, utility, arguments, written, known, applied, evaluated⟩ :=
    exists_writes_source kind sayable registered succeed
  have structured := applyCall_eq_ok known applied
  have spelled : scope.evaluateSoft (call.source quote) =
      .ok (utility scope.receiver arguments).toOption := by
    rw [evaluateSoft, evaluate, written.parse_eq_ok shallow]
    dsimp only
    rw [evaluated, Expr.invoke]
    cases utility scope.receiver arguments <;> rfl
  refine ⟨utility, arguments, known, applied, structured, spelled, ?_⟩
  rw [Binding.resolve, Binding.resolve, structured, spelled]

def collector : Scope where
  context := .null
  utilities := [("list", fun _ arguments => .ok (.array arguments))]
  props := .null
  depth := 0
  deeper _ _ := .ok ""

def innerList : Call := ⟨"list", [.string "it's"]⟩

def listOfLists : Call where
  utility := "list"
  parameters := [.string "a\"\\", .array [.null, .bool true],
    .object [("utility", .string "list"), ("parameters", .string "it's")]]

theorem innerList_throughout {holds : Call → Prop} (own : holds innerList) :
    innerList.Throughout holds := by
  refine .of own fun parameter given call found => ?_
  obtain rfl := List.mem_singleton.mp given
  cases found

theorem eq_innerList {parameter : Value} (given : parameter ∈ listOfLists.parameters)
    {call : Call} (found : Call.ofValue? parameter = some call) : call = innerList := by
  simp only [listOfLists, List.mem_cons, List.not_mem_nil, or_false] at given
  rcases given with rfl | rfl | rfl
  · cases found
  · cases found
  · cases found
    rfl

theorem listOfLists_nested {holds : Call → Prop} (inner : holds innerList) (parameter : Value)
    (given : parameter ∈ listOfLists.parameters) (call : Call)
    (found : Call.ofValue? parameter = some call) : call.Throughout holds := by
  rw [eq_innerList given found]
  exact innerList_throughout inner

theorem listOfLists_sayable : listOfLists.Sayable := by
  refine .of ⟨by decide, fun parameter given plain => ?_⟩
    (listOfLists_nested ⟨by decide, fun parameter given _ => ?_⟩)
  · simp only [listOfLists, List.mem_cons, List.not_mem_nil, or_false] at given
    rcases given with rfl | rfl | rfl
    · exact .string _
    · refine .array fun item present => ?_
      simp only [List.mem_cons, List.not_mem_nil, or_false] at present
      rcases present with rfl | rfl
      · exact .null
      · exact .bool true
    · cases plain
  · obtain rfl := List.mem_singleton.mp given
    exact .string _

theorem listOfLists_means_its_source :
    listOfLists.source '"' =
        "utilities.list(\"a\\\"\\\\\", [null, true], utilities.list(\"it's\"))" ∧
      collector.evaluateSoft (listOfLists.source '"') = .ok (some (.array
        [.string "a\"\\", .array [.null, .bool true], .array [.string "it's"]])) ∧
      collector.evaluateSoft (listOfLists.source '"') = collector.applyCall listOfLists := by
  have result : collector.applyCall innerList = .ok (some (.array [.string "it's"])) := by cbv
  have succeeds : collector.applyCall innerList ≠ .ok none := by
    rw [result]
    simp
  have whole : collector.applyCall listOfLists = .ok (some (.array
      [.string "a\"\\", .array [.null, .bool true], .array [.string "it's"]])) := by cbv
  have height : (parse (listOfLists.source '"')).map Expr.height = .ok 4 := by cbv
  have shallow : ¬ Parser.TooDeep (parse (listOfLists.source '"')) := by
    rintro ⟨place, deep⟩
    rw [deep] at height
    cases height
  obtain ⟨utility, arguments, _, _, structured, spelled, _⟩ :=
    evaluateSoft_source_eq_applyCall (.inl rfl) listOfLists_sayable
      (.of rfl (listOfLists_nested rfl)) (listOfLists_nested succeeds) shallow
  have alike := spelled.trans structured.symm
  exact ⟨by cbv, alike.trans whole, alike⟩

end Scope

end MarkupTree
