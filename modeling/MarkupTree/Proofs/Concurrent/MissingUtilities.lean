import Mathlib
import MarkupTree.Concurrent.Scope
import MarkupTree.Proofs.Concurrent.Resolution
import MarkupTree.Proofs.Rendering.Calls

/-!
Utilities that are missing. A call fails exactly where it names an unknown utility, itself or in a
call among its parameters, and nothing else makes it fail; where there is none its function gets the
parameters, those that are calls replaced by what they come to. The name that is reported is the
first that a reader comes across, and it is reported at once, as long as no fault is held back behind
a parameter that suspends.
-/

namespace MarkupTree

namespace Call

mutual

/-- The utilities that a call asks for: its own, then those of the calls among its parameters. -/
def names (call : Call) : List String := call.utility :: namesOfAll call.parameters
termination_by (sizeOf call.parameters, 1)

def namesOf (value : Value) : List String :=
  match _found : ofValue? value with
  | some call => names call
  | none => []
termination_by (sizeOf value, 0)
decreasing_by
  have := Call.sizeOf_parameters (by assumption)
  grind

def namesOfAll : List Value → List String
  | [] => []
  | value :: rest => namesOf value ++ namesOfAll rest
termination_by values => (sizeOf values, 0)
decreasing_by
  · simp only [List.cons.sizeOf_spec, Prod.lex_def]
    omega
  · simp only [List.cons.sizeOf_spec, Prod.lex_def]
    omega

end

theorem namesOf_of_call {value : Value} {call : Call} (found : ofValue? value = some call) :
    namesOf value = call.names := by
  rw [namesOf]
  split <;> simp_all

theorem namesOf_of_plain {value : Value} (plain : ofValue? value = none) : namesOf value = [] := by
  rw [namesOf]
  split <;> simp_all

example : Call.names ⟨"join", [.object [("utility", .string "sort"),
    ("parameters", .object [("utility", .string "get")])],
    .array [.object [("utility", .string "skip")]], .object [("utility", .string "trim")]]⟩ =
    ["join", "sort", "get", "trim"] := by
  cbv

end Call

namespace Concurrent.Scope

variable {scope : Scope} {α : Type}

theorem applyValue_of_call {value : Value} {call : Call} (found : Call.ofValue? value = some call) :
    scope.applyValue value = scope.applyCall call := by
  rw [applyValue]
  split <;> simp_all

theorem applyValue_of_plain {value : Value} (plain : Call.ofValue? value = none) :
    scope.applyValue value = pure (some value) := by
  rw [applyValue]
  split
  · simp_all
  · rfl

theorem applyAll_cons (held : Bool) (parameter : Value) (rest : List Value) :
    scope.applyAll held (parameter :: rest) =
      (fun values => values.1.getD .null :: values.2) <$>
        Deferred.pair held (scope.applyValue parameter) (scope.applyAll held rest) := by
  rw [applyAll, Deferred.both_eq_pair]
  rfl

def Knows (scope : Scope) (name : String) : Prop := Fields.has scope.utilities name = true

/-- The first of these names that is no utility. -/
def firstMissing (scope : Scope) (names : List String) : Option String :=
  names.find? fun name => !Fields.has scope.utilities name

/-- What is passed to a utility for one of its parameters. -/
inductive Passes (scope : Scope) : Value → Value → Prop
  | plain {parameter : Value} (plain : Call.ofValue? parameter = none) :
      Passes scope parameter parameter
  | applied {parameter value : Value} {call : Call} (found : Call.ofValue? parameter = some call)
      (applied : (scope.applyCall call).outcome = .ok (some value)) : Passes scope parameter value
  | failed {parameter : Value} {call : Call} (found : Call.ofValue? parameter = some call)
      (failed : (scope.applyCall call).outcome = .ok none) : Passes scope parameter .null

theorem passes_of_applyCall {parameter : Value} {call : Call}
    (found : Call.ofValue? parameter = some call) {result : Option Value}
    (applied : (scope.applyCall call).outcome = .ok result) :
    scope.Passes parameter (result.getD .null) := by
  cases result with
  | none => exact .failed found applied
  | some value => exact .applied found applied

def Comes (scope : Scope) (call : Call) (result : Option Value) : Prop :=
  ∃ utility arguments, Fields.find? scope.utilities call.utility = some utility ∧
    List.Forall₂ scope.Passes call.parameters arguments ∧
    result = (utility scope.receiver arguments).outcome.toOption

structure Reports (scope : Scope) (names : List String) (given : α → Prop)
    (answer : Deferred Fault α) : Prop where
  missing : ∀ fault, answer.outcome = .error fault →
    ∃ name ∈ names, ¬ scope.Knows name ∧ fault = .utilityNotFound name
  known : ∀ value, answer.outcome = .ok value → (∀ name ∈ names, scope.Knows name) ∧ given value

theorem calls_report (scope : Scope) :
    (∀ call : Call, scope.Reports call.names (scope.Comes call) (scope.applyCall call)) ∧
    (∀ held parameters, scope.Reports (Call.namesOfAll parameters)
      (List.Forall₂ scope.Passes parameters) (scope.applyAll held parameters)) ∧
    ∀ value, scope.Reports (Call.namesOf value) (fun result => scope.Passes value (result.getD .null))
      (scope.applyValue value) := by
  apply applyCall.mutual_induct scope
  case case1 =>
    intro call unknown
    have own : ¬ scope.Knows call.utility := by simp [Knows, Fields.has, unknown]
    rw [Call.names, applyCall, unknown]
    exact {
      missing := fun fault failed =>
        ⟨_, List.mem_cons_self, own, (Except.error.inj failed).symm⟩
      known := fun value succeeded => by cases succeeded }
  case case2 =>
    intro call utility known parameters
    have own : scope.Knows call.utility := by simp [Knows, Fields.has, known]
    rw [Call.names]
    constructor
    · intro fault failed
      rw [outcome_applyCall_of_known known] at failed
      cases given : (scope.applyAll (Deferred.isQueued call.parameters) call.parameters).outcome with
      | ok arguments =>
          rw [given] at failed
          cases failed
      | error cause =>
          rw [given] at failed
          obtain rfl := Except.error.inj failed
          obtain ⟨name, member, unknown, rfl⟩ := parameters.missing _ given
          exact ⟨name, List.mem_cons_of_mem _ member, unknown, rfl⟩
    · intro value succeeded
      rw [outcome_applyCall_of_known known] at succeeded
      cases given : (scope.applyAll (Deferred.isQueued call.parameters) call.parameters).outcome with
      | error cause =>
          rw [given] at succeeded
          cases succeeded
      | ok arguments =>
          rw [given] at succeeded
          obtain ⟨all, passed⟩ := parameters.known _ given
          exact ⟨List.forall_mem_cons.mpr ⟨own, all⟩, utility, arguments, known, passed,
            (Except.ok.inj succeeded).symm⟩
  case case3 =>
    intro held
    rw [applyAll, Call.namesOfAll]
    exact {
      missing := fun fault failed => by cases failed
      known := fun value succeeded => ⟨List.forall_mem_nil _, Except.ok.inj succeeded ▸ .nil⟩ }
  case case4 =>
    intro held parameter rest first others
    rw [applyAll_cons, Call.namesOfAll]
    constructor
    · intro fault failed
      rw [Deferred.outcome_map_eq_error_iff] at failed
      obtain ⟨own, -⟩ | ⟨own, -⟩ := Deferred.outcome_pair_cases failed
      · obtain ⟨name, member, unknown, rfl⟩ := first.missing fault own
        exact ⟨name, List.mem_append_left _ member, unknown, rfl⟩
      · obtain ⟨name, member, unknown, rfl⟩ := others.missing fault own
        exact ⟨name, List.mem_append_right _ member, unknown, rfl⟩
    · intro values succeeded
      rw [Deferred.outcome_map] at succeeded
      cases answered : (Deferred.pair held (scope.applyValue parameter)
          (scope.applyAll held rest)).outcome with
      | error cause =>
          rw [answered] at succeeded
          cases succeeded
      | ok both =>
          rw [answered] at succeeded
          obtain ⟨own, behind⟩ := Deferred.outcome_pair_eq_ok_iff.mp answered
          obtain ⟨known, passed⟩ := first.known _ own
          obtain ⟨all, passes⟩ := others.known _ behind
          refine ⟨List.forall_mem_append.mpr ⟨known, all⟩, ?_⟩
          exact Except.ok.inj succeeded ▸ .cons passed passes
  case case5 =>
    intro value call found applied
    rw [applyValue_of_call found, Call.namesOf_of_call found]
    exact {
      missing := applied.missing
      known := fun result succeeded =>
        ⟨(applied.known result succeeded).1, passes_of_applyCall found succeeded⟩ }
  case case6 =>
    intro value plain
    rw [applyValue_of_plain plain, Call.namesOf_of_plain plain]
    exact {
      missing := fun fault failed => by cases failed
      known := fun result succeeded =>
        ⟨List.forall_mem_nil _, Except.ok.inj succeeded ▸ .plain plain⟩ }

/-- No call has so many parameters that their faults are held back while one of them suspends. -/
def Unheld (scope : Scope) (call : Call) : Prop :=
  call.Throughout fun inner => Deferred.isQueued inner.parameters = true →
    ∀ parameter ∈ inner.parameters, (scope.applyValue parameter).rounds = 0

/-- Every utility has answered when its call returns. -/
def Prompt (scope : Scope) : Prop :=
  ∀ name utility, Fields.find? scope.utilities name = some utility →
    ∀ receiver arguments, (utility receiver arguments).rounds = 0

theorem Prompt.rounds_calls (prompt : scope.Prompt) :
    (∀ call, (scope.applyCall call).rounds = 0) ∧
    (∀ held parameters, (scope.applyAll held parameters).rounds = 0) ∧
    ∀ value, (scope.applyValue value).rounds = 0 := by
  apply applyCall.mutual_induct scope
  case case1 =>
    intro call unknown
    rw [applyCall, unknown]
    rfl
  case case2 =>
    intro call utility known parameters
    rw [applyCall, known]
    refine Deferred.rounds_bind_of_prompt parameters fun arguments => ?_
    rw [Deferred.rounds_convert]
    exact prompt _ _ known _ _
  case case3 =>
    intro held
    rw [applyAll]
    rfl
  case case4 =>
    intro held parameter rest first others
    rw [applyAll_cons, Deferred.rounds_map]
    exact Deferred.rounds_pair_of_prompt first others
  case case5 =>
    intro value call found applied
    rwa [applyValue_of_call found]
  case case6 =>
    intro value plain
    rw [applyValue_of_plain plain]
    rfl

theorem Prompt.unheld (prompt : scope.Prompt) (call : Call) : scope.Unheld call :=
  .of_forall (fun _ _ parameter _ => prompt.rounds_calls.2.2 parameter) call

theorem knows_of_firstMissing_eq_none {names : List String}
    (none : scope.firstMissing names = none) : ∀ name ∈ names, scope.Knows name := by
  intro name member
  simpa [Knows] using List.find?_eq_none.mp none name member

theorem calls_report_at_once (scope : Scope) :
    (∀ call, scope.Unheld call → ∀ name, scope.firstMissing call.names = some name →
      scope.applyCall call = .done (.error (.utilityNotFound name))) ∧
    (∀ held parameters,
      (held = true → ∀ parameter ∈ parameters, (scope.applyValue parameter).rounds = 0) →
      (∀ parameter ∈ parameters, ∀ inner, Call.ofValue? parameter = some inner →
        scope.Unheld inner) →
      ∀ name, scope.firstMissing (Call.namesOfAll parameters) = some name →
        scope.applyAll held parameters = .done (.error (.utilityNotFound name))) ∧
    ∀ value, (∀ inner, Call.ofValue? value = some inner → scope.Unheld inner) →
      ∀ name, scope.firstMissing (Call.namesOf value) = some name →
        scope.applyValue value = .done (.error (.utilityNotFound name)) := by
  apply applyCall.mutual_induct scope
  case case1 =>
    intro call unknown _ name first
    rw [Call.names, firstMissing, List.find?_cons_of_pos (by simp [Fields.has, unknown])] at first
    rw [applyCall, unknown, Option.some.inj first]
  case case2 =>
    intro call utility known parameters unheld name first
    rw [Call.names, firstMissing, List.find?_cons_of_neg (by simp [Fields.has, known])] at first
    rw [applyCall, known]
    simp only [parameters unheld.own (fun _ given _ found => unheld.nested given found) name first]
    rfl
  case case3 =>
    intro held _ _ name first
    rw [Call.namesOfAll] at first
    cases first
  case case4 =>
    intro held parameter rest first others swift unheld name found
    obtain ⟨own, behind⟩ := List.forall_mem_cons.mp unheld
    rw [Call.namesOfAll, firstMissing, List.find?_append] at found
    rw [applyAll_cons]
    cases missing : scope.firstMissing (Call.namesOf parameter) with
    | some earlier =>
        rw [firstMissing] at missing
        rw [missing] at found
        obtain rfl := Option.some.inj found
        rw [first own _ missing]
        rfl
    | none =>
        have known := knows_of_firstMissing_eq_none missing
        rw [firstMissing] at missing
        rw [missing] at found
        have rest_swift (isHeld : held = true) := (List.forall_mem_cons.mp (swift isHeld)).2
        rw [others rest_swift behind name found]
        cases answered : (scope.applyValue parameter).outcome with
        | error fault =>
            obtain ⟨missed, member, unknown, -⟩ :=
              (scope.calls_report.2.2 parameter).missing fault answered
            exact absurd (known missed member) unknown
        | ok value =>
            rw [Deferred.pair_error answered fun isHeld =>
              (List.forall_mem_cons.mp (swift isHeld)).1]
            rfl
  case case5 =>
    intro value call found applied unheld name first
    rw [Call.namesOf_of_call found] at first
    rw [applyValue_of_call found]
    exact applied (unheld call found) name first
  case case6 =>
    intro value plain _ name first
    rw [Call.namesOf_of_plain plain] at first
    cases first

def waiting : Scope where
  context := .null
  utilities := [("slow", fun _ _ => .later (.done (.ok .null))),
    ("join", fun _ _ => .done (.ok .null))]
  props := .null
  depth := 0
  deeper _ _ := .done (.ok "")

def bare (name : String) : Value := .object [("utility", .string name)]

/-- Among many parameters the same fault is held back, and one that comes behind them all is reported
instead. -/
example : waiting.applyCall ⟨"join", [.object [("utility", .string "join"),
      ("parameters", .array (bare "slow" :: bare "sort" :: List.replicate 29 .null))],
    bare "trim"]⟩ = .done (.error (.utilityNotFound "trim")) := by
  cbv

end Concurrent.Scope

end MarkupTree
