import MarkupTree.Renderer
import Mathlib.Data.List.Forall2

/-!
Runs that agree up to tolerated faults. All that bindings, calls and expressions do is to combine
steps, so two scopes that see the same data give results that agree as soon as their nested renders
do.
-/

namespace MarkupTree

variable {ε α β γ δ : Type}

theorem exists_of_bind_eq_ok {result : Except ε α} {next : α → Except ε β} {y : β}
    (done : result >>= next = .ok y) : ∃ x, result = .ok x ∧ next x = .ok y := by
  cases result with
  | ok x => exact ⟨x, rfl, done⟩
  | error cause => cases done

theorem exists_of_mapM_eq_ok {f : α → Except ε β} {items : List α} {parts : List β}
    (done : items.mapM f = .ok parts) : ∀ item ∈ items, ∃ part, f item = .ok part := by
  induction items generalizing parts with
  | nil => simp
  | cons item rest ih =>
      rw [List.mapM_cons] at done
      obtain ⟨part, first, done⟩ := exists_of_bind_eq_ok done
      obtain ⟨others, behind, _⟩ := exists_of_bind_eq_ok done
      exact List.forall_mem_cons.mpr ⟨⟨part, first⟩, ih behind⟩

/-- The faults that may set two runs apart: a fault of the first one may free the second, and two
faults may stand for each other. -/
structure Tolerance (ε : Type) where
  frees : ε → Prop
  pairs : ε → ε → Prop

namespace Tolerance

def Covers (tolerance : Tolerance ε) (fault : ε) : Prop :=
  tolerance.frees fault ∨ tolerance.pairs fault fault

def exact : Tolerance ε where
  frees _ := False
  pairs := Eq

theorem covers_exact (fault : ε) : (exact : Tolerance ε).Covers fault := .inr rfl

def lift (tolerance : Tolerance Fault) : Tolerance ExprFault where
  frees
    | .fatal fault => tolerance.frees fault
    | _ => False
  pairs
    | .fatal fault, .fatal other => tolerance.pairs fault other
    | .fatal _, _ => False
    | failure, other => failure = other

end Tolerance

/-- Two results agree: related values, or faults that are tolerated. -/
inductive Agree (tolerance : Tolerance ε) (related : α → β → Prop) :
    Except ε α → Except ε β → Prop
  | values {x : α} {y : β} (pair : related x y) : Agree tolerance related (.ok x) (.ok y)
  | freed {fault : ε} (frees : tolerance.frees fault) (second : Except ε β) :
      Agree tolerance related (.error fault) second
  | paired {fault other : ε} (pairs : tolerance.pairs fault other) :
      Agree tolerance related (.error fault) (.error other)

namespace Agree

variable {tolerance : Tolerance ε} {related : α → β → Prop} {further : γ → δ → Prop}

theorem ok (x : α) : Agree tolerance Eq (.ok x) (.ok x) := .values rfl

theorem error {fault : ε} (covered : tolerance.Covers fault) :
    Agree tolerance related (.error fault) (.error fault) := by
  rcases covered with frees | pairs
  · exact .freed frees _
  · exact .paired pairs

theorem refl (covers : ∀ fault, tolerance.Covers fault) (result : Except ε α) :
    Agree tolerance Eq result result := by
  cases result with
  | ok x => exact ok x
  | error fault => exact error (covers fault)

theorem same (result : Except ε α) : Agree .exact Eq result result :=
  refl Tolerance.covers_exact result

theorem exact_iff {a b : Except ε α} : Agree .exact Eq a b ↔ a = b := by
  constructor
  · intro agree
    cases agree with
    | values same => rw [same]
    | freed frees second => exact False.elim frees
    | paired same => rw [same]
  · rintro rfl
    exact same a

theorem bind {a : Except ε α} {b : Except ε β} {f : α → Except ε γ} {g : β → Except ε δ}
    (first : Agree tolerance related a b)
    (next : ∀ x y, related x y → Agree tolerance further (f x) (g y)) :
    Agree tolerance further (a >>= f) (b >>= g) := by
  cases first with
  | values pair => exact next _ _ pair
  | freed frees second => exact .freed frees _
  | paired pairs => exact .paired pairs

theorem andThen {a b : Except ε α} {f : α → Except ε γ} {g : α → Except ε δ}
    (first : Agree tolerance Eq a b) (next : ∀ x, Agree tolerance further (f x) (g x)) :
    Agree tolerance further (a >>= f) (b >>= g) :=
  bind first fun x _ same => same ▸ next x

theorem map {a b : Except ε α} (first : Agree tolerance Eq a b) (f : α → γ) :
    Agree tolerance Eq (f <$> a) (f <$> b) := by
  cases first with
  | values same => exact .values (congrArg f same)
  | freed frees second => exact .freed frees _
  | paired pairs => exact .paired pairs

theorem mapM {f : α → Except ε γ} {g : β → Except ε γ} {as : List α} {bs : List β}
    (each : List.Forall₂ (fun a b => Agree tolerance Eq (f a) (g b)) as bs) :
    Agree tolerance Eq (as.mapM f) (bs.mapM g) := by
  induction each with
  | nil => exact ok []
  | cons first _ ih =>
      simp only [List.mapM_cons]
      exact first.andThen fun x => ih.andThen fun xs => ok (x :: xs)

end Agree

theorem Scope.calls_agree {tolerance : Tolerance Fault} {a b : Scope}
    (utilities : a.utilities = b.utilities) (receiver : a.receiver = b.receiver)
    (missing : ∀ name, Fields.find? a.utilities name = none →
      tolerance.Covers (.utilityNotFound name)) :
    (∀ call, Agree tolerance Eq (a.applyCall call) (b.applyCall call)) ∧
      (∀ parameters,
        Agree tolerance Eq (a.applyParameters parameters) (b.applyParameters parameters)) ∧
      ∀ value, Agree tolerance Eq (a.applyValue value) (b.applyValue value) := by
  apply Scope.applyCall.mutual_induct a
  case case1 =>
    intro call unknown
    rw [Scope.applyCall, Scope.applyCall, ← utilities, unknown]
    exact .error (missing _ unknown)
  case case2 =>
    intro call utility known parameters
    rw [Scope.applyCall, Scope.applyCall, ← utilities, ← receiver, known]
    refine parameters.andThen ?_
    intro arguments
    cases utility a.receiver arguments with
    | ok value => exact .ok _
    | error message => exact .ok _
  case case3 =>
    rw [Scope.applyParameters, Scope.applyParameters]
    exact .ok []
  case case4 =>
    intro parameter rest first others
    rw [Scope.applyParameters, Scope.applyParameters]
    exact first.andThen fun value => others.andThen fun values => .ok _
  case case5 =>
    intro value call found applied
    rw [Scope.applyValue, Scope.applyValue]
    split <;> simp_all
  case case6 =>
    intro value found
    rw [Scope.applyValue, Scope.applyValue]
    split
    · simp_all
    · exact .ok _

structure Scope.Alike (tolerance : Tolerance Fault) (near : List Node → List Node → Prop)
    (a b : Scope) : Prop where
  context : a.context = b.context
  utilities : a.utilities = b.utilities
  props : a.props = b.props
  missing : ∀ name, Fields.find? a.utilities name = none →
    tolerance.Covers (.utilityNotFound name)
  itself : ∀ items, near items items
  deeper : ∀ {items others}, near items others → ∀ props,
    Agree tolerance Eq (a.deeper items props) (b.deeper others props)

namespace Scope.Alike

variable {tolerance : Tolerance Fault} {near : List Node → List Node → Prop} {a b : Scope}

theorem withProps (alike : Alike tolerance near a b) (props : Value) :
    Alike tolerance near (a.withProps props) (b.withProps props) :=
  { alike with props := rfl }

theorem receiver (alike : Alike tolerance near a b) : a.receiver = b.receiver := by
  rw [Scope.receiver, Scope.receiver, alike.context, alike.props]

theorem hasProp (alike : Alike tolerance near a b) (name : String) :
    a.hasProp name = b.hasProp name := by
  rw [Scope.hasProp, Scope.hasProp, alike.props]

theorem lookup (alike : Alike tolerance near a b) (path : String) :
    a.lookup path = b.lookup path := by
  simp only [Scope.lookup, alike.hasProp, alike.context, alike.props]

theorem render (alike : Alike tolerance near a b) (fragment : Fragment) :
    Agree tolerance Eq (a.render fragment) (b.render fragment) :=
  alike.deeper (alike.itself _) _

theorem renderWithProps (alike : Alike tolerance near a b) (fragment : Fragment) (props : Value) :
    Agree tolerance Eq (a.renderWithProps fragment props) (b.renderWithProps fragment props) :=
  alike.deeper (alike.itself _) _

/-! Structured calls never render: they see the data of the scope only. -/

theorem calls (alike : Alike tolerance near a b) :
    (∀ call, Agree tolerance Eq (a.applyCall call) (b.applyCall call)) ∧
      (∀ parameters,
        Agree tolerance Eq (a.applyParameters parameters) (b.applyParameters parameters)) ∧
      ∀ value, Agree tolerance Eq (a.applyValue value) (b.applyValue value) :=
  Scope.calls_agree alike.utilities alike.receiver alike.missing

theorem applyCall (alike : Alike tolerance near a b) (call : Call) :
    Agree tolerance Eq (a.applyCall call) (b.applyCall call) := alike.calls.1 call

theorem applyValue (alike : Alike tolerance near a b) (value : Value) :
    Agree tolerance Eq (a.applyValue value) (b.applyValue value) := alike.calls.2.2 value

end Scope.Alike

end MarkupTree
