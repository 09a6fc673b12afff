import MarkupTree.Call.Apply

/-!
Structured calls and those that are nested in them as parameters. A call whose utilities are all
known is applied without a fault, and its utility gets the values of its parameters in order.
-/

namespace MarkupTree

namespace Call

/-- A property of a call, and of the calls among its parameters down to any depth. -/
inductive Throughout (holds : Call → Prop) : Call → Prop
  | of {call : Call} (own : holds call)
      (nested : ∀ parameter ∈ call.parameters, ∀ inner, ofValue? parameter = some inner →
        Throughout holds inner) : Throughout holds call

namespace Throughout

variable {holds : Call → Prop} {call : Call}

theorem own (all : Throughout holds call) : holds call := by
  cases all with
  | of own nested => exact own

theorem nested (all : Throughout holds call) {parameter : Value} (given : parameter ∈ call.parameters)
    {inner : Call} (found : ofValue? parameter = some inner) : Throughout holds inner := by
  cases all with
  | of own nested => exact nested parameter given inner found

theorem of_forall (all : ∀ call, holds call) (call : Call) : Throughout holds call :=
  .of (all call) fun parameter _given inner _found => of_forall all inner
termination_by sizeOf call.parameters
decreasing_by
  exact Nat.lt_trans (sizeOf_parameters _found) (List.sizeOf_lt_of_mem _given)

theorem imp {weaker : Call → Prop} (all : Throughout holds call)
    (each : ∀ inner, holds inner → weaker inner) : Throughout weaker call := by
  induction all with
  | @of call own nested ih => exact .of (each call own) ih

end Throughout

/-- Every utility that a call names is known. -/
def Registered (utilities : Utilities) (call : Call) : Prop :=
  call.Throughout fun inner => Fields.has utilities inner.utility = true

end Call

namespace Scope

variable {scope : Scope}

theorem applyValue_of_call {value : Value} {call : Call} (found : Call.ofValue? value = some call) :
    scope.applyValue value = scope.applyCall call := by
  rw [applyValue]
  split <;> simp_all

theorem applyValue_of_plain {value : Value} (plain : Call.ofValue? value = none) :
    scope.applyValue value = .ok (some value) := by
  rw [applyValue]
  split
  · simp_all
  · rfl

theorem applyCall_eq_ok {call : Call} {utility : Utility} {arguments : List Value}
    (known : Fields.find? scope.utilities call.utility = some utility)
    (applied : scope.applyParameters call.parameters = .ok arguments) :
    scope.applyCall call = .ok (utility scope.receiver arguments).toOption := by
  rw [applyCall, known, applied]
  dsimp only [bind, Except.bind]
  cases utility scope.receiver arguments <;> rfl

theorem exists_applyParameters_eq_ok {parameters : List Value}
    (each : ∀ parameter ∈ parameters, ∃ value, scope.applyValue parameter = .ok value) :
    ∃ arguments, scope.applyParameters parameters = .ok arguments := by
  induction parameters with
  | nil => exact ⟨[], by rw [applyParameters]⟩
  | cons parameter rest ih =>
      obtain ⟨own, others⟩ := List.forall_mem_cons.mp each
      obtain ⟨value, first⟩ := own
      obtain ⟨values, behind⟩ := ih others
      exact ⟨value.getD .null :: values, by rw [applyParameters, first, behind]; rfl⟩

theorem exists_applyCall_eq_ok {call : Call} (registered : call.Registered scope.utilities) :
    ∃ value, scope.applyCall call = .ok value := by
  induction registered with
  | @of call own nested ih =>
      obtain ⟨utility, known⟩ := Option.isSome_iff_exists.mp own
      have each (parameter : Value) (given : parameter ∈ call.parameters) :
          ∃ value, scope.applyValue parameter = .ok value := by
        cases found : Call.ofValue? parameter with
        | none => exact ⟨_, applyValue_of_plain found⟩
        | some inner =>
            obtain ⟨value, applied⟩ := ih parameter given inner found
            exact ⟨value, (applyValue_of_call found).trans applied⟩
      obtain ⟨arguments, applied⟩ := exists_applyParameters_eq_ok each
      exact ⟨_, applyCall_eq_ok known applied⟩

end Scope

end MarkupTree
