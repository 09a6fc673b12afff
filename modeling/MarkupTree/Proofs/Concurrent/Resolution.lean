import MarkupTree.Concurrent.Binding
import MarkupTree.Proofs.Bindings.LastValues
import MarkupTree.Proofs.Concurrent.Joins

/-!
The values of bindings that are waited for together. The fault of them all is the first, in order, of
those that have come when the wait ends. Without one, each name that has a value stands where it
first has one and holds the last, and bindings without a value leave no trace.
-/

namespace MarkupTree

theorem present_eq_none_iff {result : Option Value} :
    present result = none ↔ ∀ value, result = some value → value = .null ∨ value = .string "" := by
  unfold present
  split
  · simp
  · simp
  · rename_i text
    by_cases empty : text = "" <;> simp [empty]
  · rename_i value notNull notText
    simp only [reduceCtorEq, false_iff, not_forall]
    exact ⟨value, rfl, fun blank => blank.elim notNull (notText "")⟩

theorem eq_of_present_eq_some {result : Option Value} {value : Value}
    (held : present result = some value) :
    result = some value ∧ value ≠ .null ∧ value ≠ .string "" := by
  unfold present at held
  split at held
  · cases held
  · cases held
  · rename_i text
    split at held
    · cases held
    · rename_i filled
      cases held
      exact ⟨rfl, nofun, fun same => filled (Value.string.inj same)⟩
  · rename_i notNull notText
    cases held
    exact ⟨rfl, notNull, notText ""⟩

namespace Concurrent.Scope

variable {scope : Scope} {binding : Binding} {bindings : Bindings} {value : Value}

inductive Computes (scope : Scope) : Binding → Option Value → Prop
  | path (dotted : String) : Computes scope (.path dotted) (scope.lookup dotted)
  | expression {source : String} {result : Option Value}
      (evaluated : (scope.evaluate source).outcome = .ok result) :
      Computes scope (.expression source) result
  | failed {source : String} {cause : ExprFault}
      (failed : (scope.evaluate source).outcome = .error cause)
      (soft : ∀ fault, cause ≠ .fatal fault) : Computes scope (.expression source) none
  | call {call : Call} {utility : Utility} {arguments : List Value}
      (known : Fields.find? scope.utilities call.utility = some utility)
      (given : (scope.applyAll (Deferred.isQueued call.parameters) call.parameters).outcome =
        .ok arguments) :
      Computes scope (.call call) (utility scope.receiver arguments).outcome.toOption

inductive Absent (scope : Scope) : Binding → Prop
  | null : Absent scope (.literal .null)
  | missing {binding : Binding} (computes : scope.Computes binding none) : Absent scope binding
  | blank {binding : Binding} {value : Value} (computes : scope.Computes binding (some value))
      (blank : value = .null ∨ value = .string "") : Absent scope binding

def value? (scope : Scope) (binding : Binding) : Option Value :=
  (scope.resolveBinding binding).outcome.toOption.join

/-- The fields of bindings: each name with a value in its first place, and with the last value. -/
structure Resolved (scope : Scope) (bindings : Bindings) (fields : Fields Value) : Prop where
  names : Fields.names fields =
    ((bindings.filter fun entry => (scope.value? entry.2).isSome).map Prod.fst).eraseDups
  values : ∀ name value, (name, value) ∈ fields ↔
    ∃ binding, bindings.Gives scope.value? name binding value
  given : ∀ name value, (name, value) ∈ fields → value ≠ .null
  written : ∀ name binding, bindings.Gives scope.value? name binding (.string "") →
    binding = .literal (.string "")

/-- Some of the bindings, where all that are left out are absent. -/
inductive Thins (scope : Scope) : Bindings → Bindings → Prop
  | nil : Thins scope [] []
  | keep {bindings kept : Bindings} (entry : String × Binding) (rest : Thins scope bindings kept) :
      Thins scope (entry :: bindings) (entry :: kept)
  | drop {entry : String × Binding} {bindings kept : Bindings} (absent : scope.Absent entry.2)
      (rest : Thins scope bindings kept) : Thins scope (entry :: bindings) kept

theorem value?_eq_some_iff :
    scope.value? binding = some value ↔
      (scope.resolveBinding binding).outcome = .ok (some value) := by
  unfold value?
  cases (scope.resolveBinding binding).outcome with
  | error cause => simp [Except.toOption]
  | ok result => simp [Except.toOption]

theorem outcome_applyCall_of_known {call : Call} {utility : Utility}
    (known : Fields.find? scope.utilities call.utility = some utility) :
    (scope.applyCall call).outcome =
      (fun arguments => (utility scope.receiver arguments).outcome.toOption) <$>
        (scope.applyAll (Deferred.isQueued call.parameters) call.parameters).outcome := by
  have reading (answer : Except String Value) : callResult answer = .ok answer.toOption := by
    cases answer <;> rfl
  rw [applyCall, known]
  simp only [Deferred.outcome_bind, Deferred.outcome_convert, reading]
  rfl

theorem outcome_applyCall_eq_ok_iff {call : Call} {result : Option Value} :
    (scope.applyCall call).outcome = .ok result ↔
      ∃ utility arguments, Fields.find? scope.utilities call.utility = some utility ∧
        (scope.applyAll (Deferred.isQueued call.parameters) call.parameters).outcome =
          .ok arguments ∧
        (utility scope.receiver arguments).outcome.toOption = result := by
  cases known : Fields.find? scope.utilities call.utility with
  | none => simp [applyCall, known]
  | some utility =>
      rw [outcome_applyCall_of_known known]
      cases (scope.applyAll (Deferred.isQueued call.parameters) call.parameters).outcome <;>
        simp [Functor.map, Except.map]

theorem outcome_resolveBinding_eq_ok_iff {result : Option Value}
    (computed : ∀ value, binding ≠ .literal value) :
    (scope.resolveBinding binding).outcome = .ok result ↔
      ∃ found, scope.Computes binding found ∧ present found = result := by
  constructor
  · intro resolved
    cases binding with
    | literal value => exact absurd rfl (computed value)
    | path dotted => exact ⟨_, .path dotted, Except.ok.inj resolved⟩
    | expression source =>
        rw [resolveBinding, Deferred.outcome_map, evaluateSoft, Deferred.outcome_convert] at resolved
        cases evaluated : (scope.evaluate source).outcome with
        | ok found =>
            rw [evaluated] at resolved
            exact ⟨found, .expression evaluated, Except.ok.inj resolved⟩
        | error cause =>
            rw [evaluated] at resolved
            cases cause with
            | fatal fault => cases resolved
            | _ => exact ⟨none, .failed evaluated nofun, Except.ok.inj resolved⟩
    | call call =>
        rw [resolveBinding, Deferred.outcome_map] at resolved
        cases applied : (scope.applyCall call).outcome with
        | error fault =>
            rw [applied] at resolved
            cases resolved
        | ok found =>
            rw [applied] at resolved
            obtain ⟨utility, arguments, known, given, rfl⟩ := outcome_applyCall_eq_ok_iff.mp applied
            exact ⟨_, .call known given, Except.ok.inj resolved⟩
  · rintro ⟨found, computes, rfl⟩
    cases computes with
    | path dotted => rfl
    | expression evaluated =>
        rw [resolveBinding, Deferred.outcome_map, evaluateSoft, Deferred.outcome_convert, evaluated]
        rfl
    | @failed source cause failed soft =>
        rw [resolveBinding, Deferred.outcome_map, evaluateSoft, Deferred.outcome_convert, failed]
        cases cause with
        | fatal fault => exact absurd rfl (soft fault)
        | _ => rfl
    | call known given =>
        rw [resolveBinding, Deferred.outcome_map,
          outcome_applyCall_eq_ok_iff.mpr ⟨_, _, known, given, rfl⟩]
        rfl

theorem resolveBinding_literal (solid : value ≠ .null) :
    scope.resolveBinding (.literal value) = pure (some value) := by
  cases value with
  | null => exact absurd rfl solid
  | _ => rfl

theorem outcome_resolveBinding_eq_none_iff :
    (scope.resolveBinding binding).outcome = .ok none ↔ scope.Absent binding := by
  by_cases computed : ∀ value, binding ≠ .literal value
  · rw [outcome_resolveBinding_eq_ok_iff computed]
    constructor
    · rintro ⟨_ | value, computes, nothing⟩
      · exact .missing computes
      · exact .blank computes (present_eq_none_iff.mp nothing value rfl)
    · rintro (_ | computes | ⟨computes, blank⟩)
      · exact absurd rfl (computed _)
      · exact ⟨_, computes, rfl⟩
      · refine ⟨_, computes, present_eq_none_iff.mpr ?_⟩
        rintro _ ⟨⟩
        exact blank
  · obtain ⟨value, rfl⟩ := not_forall_not.mp computed
    constructor
    · intro nothing
      by_cases solid : value = .null
      · exact solid ▸ .null
      · rw [resolveBinding_literal solid] at nothing
        cases nothing
    · rintro (_ | computes | ⟨computes, _⟩)
      · rfl
      · cases computes
      · cases computes

theorem solid_of_value? (held : scope.value? binding = some value) :
    value ≠ .null ∧ (binding = .literal value ∨ value ≠ .string "") := by
  have resolved := value?_eq_some_iff.mp held
  by_cases computed : ∀ value, binding ≠ .literal value
  · obtain ⟨found, -, held⟩ := (outcome_resolveBinding_eq_ok_iff computed).mp resolved
    obtain ⟨-, notNull, notEmpty⟩ := eq_of_present_eq_some held
    exact ⟨notNull, .inr notEmpty⟩
  · obtain ⟨own, rfl⟩ := not_forall_not.mp computed
    by_cases solid : own = .null
    · rw [solid] at resolved
      cases resolved
    · rw [resolveBinding_literal solid] at resolved
      cases resolved
      exact ⟨solid, .inl rfl⟩

theorem resolved_collect (scope : Scope) (bindings : Bindings) :
    scope.Resolved bindings (Fields.collect (bindings.valued scope.value?)) where
  names := by rw [Fields.names_collect, Bindings.names_valued]
  values name value := by rw [Fields.mem_collect_iff, Bindings.isLast_valued_iff]
  given name value member := by
    obtain ⟨binding, _, _, _, held, _⟩ :=
      Bindings.isLast_valued_iff.mp (Fields.mem_collect_iff.mp member)
    exact (solid_of_value? held).1
  written name binding := by
    rintro ⟨_, _, _, held, _⟩
    exact (solid_of_value? held).2.resolve_right fun filled => filled rfl

theorem withValues_eq_valued {values : List (Option Value)}
    (each : List.Forall₂ (fun entry value => (scope.resolveBinding entry.2).outcome = .ok value)
      bindings values) : withValues bindings values = bindings.valued scope.value? := by
  induction each with
  | nil => rfl
  | @cons entry value rest values first _ ih =>
      have own : scope.value? entry.2 = value := by
        rw [value?, first]
        rfl
      cases value with
      | none =>
          rw [Bindings.valued_cons_none own, ← ih]
          rfl
      | some found =>
          rw [Bindings.valued_cons_some own, ← ih]
          rfl

def answers (scope : Scope) (bindings : Bindings) : Deferred Fault (List (Option Value)) :=
  Deferred.join (fun entry => scope.resolveBinding entry.2) bindings

/-- The first fault, in order, that the bindings have come to by a round. -/
def firstFault (scope : Scope) (bindings : Bindings) (round : Nat) : Option Fault :=
  Deferred.firstFault (fun entry => scope.resolveBinding entry.2) bindings round

/-- The first fault of all, which none behind it forestalls. -/
def FaultsFirst (scope : Scope) (bindings : Bindings) (fault : Fault) : Prop :=
  Deferred.FailsFirst (fun entry => scope.resolveBinding entry.2) bindings fault

theorem resolve_eq_map (scope : Scope) (bindings : Bindings) : scope.resolve bindings =
    (fun values => Fields.collect (withValues bindings values)) <$> scope.answers bindings := rfl

theorem outcome_resolve_eq_error_iff {fault : Fault} :
    (scope.resolve bindings).outcome = .error fault ↔
      (scope.answers bindings).outcome = .error fault := by
  rw [resolve_eq_map, Deferred.outcome_map_eq_error_iff]

theorem outcome_resolve_eq_ok_iff {fields : Fields Value} :
    (scope.resolve bindings).outcome = .ok fields ↔
      (∀ entry ∈ bindings, ∃ result, (scope.resolveBinding entry.2).outcome = .ok result) ∧
      fields = Fields.collect (bindings.valued scope.value?) := by
  have each : (∃ values, (scope.answers bindings).outcome = .ok values) ↔
      ∀ entry ∈ bindings, ∃ result, (scope.resolveBinding entry.2).outcome = .ok result :=
    Deferred.exists_outcome_all_eq_ok_iff
  rw [resolve_eq_map, Deferred.outcome_map, ← each]
  cases answered : (scope.answers bindings).outcome with
  | error fault => simp [Functor.map, Except.map]
  | ok values =>
      rw [← withValues_eq_valued (Deferred.outcome_all_eq_ok_iff.mp answered)]
      simp [Functor.map, Except.map, eq_comm]

theorem exists_outcome_resolve_eq_error_iff :
    (∃ fault, (scope.resolve bindings).outcome = .error fault) ↔
      ∃ entry ∈ bindings, ∃ fault, (scope.resolveBinding entry.2).outcome = .error fault := by
  simp only [outcome_resolve_eq_error_iff]
  exact Deferred.exists_outcome_all_eq_error_iff

namespace Thins

variable {kept : Bindings}

theorem valued_eq (thins : scope.Thins bindings kept) :
    kept.valued scope.value? = bindings.valued scope.value? := by
  induction thins with
  | nil => rfl
  | keep entry rest ih =>
      cases held : scope.value? entry.2 with
      | none => rw [Bindings.valued_cons_none held, Bindings.valued_cons_none held, ih]
      | some value => rw [Bindings.valued_cons_some held, Bindings.valued_cons_some held, ih]
  | @drop entry bindings kept absent rest ih =>
      have none : scope.value? entry.2 = none := by
        rw [value?, outcome_resolveBinding_eq_none_iff.mpr absent]
        rfl
      rw [Bindings.valued_cons_none none, ih]

theorem firstFault_eq (thins : scope.Thins bindings kept) (round : Nat) :
    scope.firstFault kept round = scope.firstFault bindings round := by
  unfold firstFault Deferred.firstFault
  induction thins with
  | nil => rfl
  | keep entry rest ih => rw [List.findSome?_cons, List.findSome?_cons, ih]
  | @drop entry bindings kept absent rest ih =>
      have silent : (scope.resolveBinding entry.2).faultBy round = none := by
        refine Deferred.faultBy_eq_none fun fault failed => ?_
        cases (outcome_resolveBinding_eq_none_iff.mpr absent).symm.trans failed
      rw [List.findSome?_cons, silent, ih]

theorem mem_of_mem (thins : scope.Thins bindings kept) {entry : String × Binding}
    (member : entry ∈ kept) : entry ∈ bindings := by
  induction thins with
  | nil => exact member
  | keep first rest ih => exact List.mem_cons.mpr ((List.mem_cons.mp member).imp_right ih)
  | drop absent rest ih => exact List.mem_cons_of_mem _ (ih member)

/-- The same fault, unless there were too many bindings before and one of them suspends. -/
theorem outcome_resolve_eq_error_iff (thins : scope.Thins bindings kept)
    (alike : Deferred.isQueued kept = Deferred.isQueued bindings ∨
      ∀ entry ∈ bindings, (scope.resolveBinding entry.2).rounds = 0) (fault : Fault) :
    (scope.resolve kept).outcome = .error fault ↔
      (scope.resolve bindings).outcome = .error fault := by
  rw [Scope.outcome_resolve_eq_error_iff, Scope.outcome_resolve_eq_error_iff]
  rcases alike with queued | prompt
  · unfold answers Deferred.join
    rw [queued]
    exact ⟨Deferred.outcome_all_of_firstFault_eq thins.firstFault_eq,
      Deferred.outcome_all_of_firstFault_eq fun round => (thins.firstFault_eq round).symm⟩
  · have first := thins.firstFault_eq 0
    unfold answers Deferred.join
    rw [Deferred.outcome_all_of_prompt prompt,
      Deferred.outcome_all_of_prompt fun entry member => prompt entry (thins.mem_of_mem member)]
    exact iff_of_eq (congrArg (· = some fault) first)

theorem forall_ok_iff (thins : scope.Thins bindings kept) :
    (∀ entry ∈ kept, ∃ result, (scope.resolveBinding entry.2).outcome = .ok result) ↔
      ∀ entry ∈ bindings, ∃ result, (scope.resolveBinding entry.2).outcome = .ok result := by
  induction thins with
  | nil => rfl
  | keep entry rest ih => rw [List.forall_mem_cons, List.forall_mem_cons, ih]
  | drop absent rest ih =>
      rw [List.forall_mem_cons, ih]
      exact (and_iff_right ⟨_, outcome_resolveBinding_eq_none_iff.mpr absent⟩).symm

theorem outcome_resolve_eq_ok_iff (thins : scope.Thins bindings kept) (fields : Fields Value) :
    (scope.resolve kept).outcome = .ok fields ↔ (scope.resolve bindings).outcome = .ok fields := by
  rw [Scope.outcome_resolve_eq_ok_iff, Scope.outcome_resolve_eq_ok_iff, thins.valued_eq,
    thins.forall_ok_iff]

theorem outcome_resolve_eq (thins : scope.Thins bindings kept)
    (alike : Deferred.isQueued kept = Deferred.isQueued bindings ∨
      ∀ entry ∈ bindings, (scope.resolveBinding entry.2).rounds = 0) :
    (scope.resolve kept).outcome = (scope.resolve bindings).outcome := by
  cases resolved : (scope.resolve bindings).outcome with
  | error fault => exact (thins.outcome_resolve_eq_error_iff alike fault).mpr resolved
  | ok fields => exact (thins.outcome_resolve_eq_ok_iff fields).mpr resolved

end Thins

def hosted : Scope where
  context := .object [("title", .string "Site"), ("empty", .string "")]
  utilities := [("slow", fun _ _ => .later (.done (.ok (.object [("element", .string "Chart")]))))]
  props := .null
  depth := 0
  deeper _ _ := .done (.error (.componentNotFound "Chart"))

def suspendedClass : Bindings :=
  [("class", .path "title.missing"), ("alt", .literal (.string "")), ("class", .call ⟨"slow", []⟩),
    ("alt", .path "empty"), ("class", .path "title"), ("class", .literal .null)]

def lateFault : String × Binding := ("late", .expression "render(slow())")

def earlyFault : String × Binding := ("early", .call ⟨"missing", []⟩)

end Concurrent.Scope

end MarkupTree
