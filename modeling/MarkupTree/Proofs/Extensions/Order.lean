import MarkupTree.Proofs.Extensions.Frame

/-!
The order of the extensions of the library. They take different fields and write different parts of a
node, so a node that goes on comes out the same in any order. The visibility comes first because it
is the only one that stops a node: what it drops is not looked at by the others, which might fail.
-/

namespace MarkupTree

namespace Rewriting

def Apart (first second : Rewriting) : Prop :=
  (first.classes = none ∨ second.classes = none) ∧
    (first.content = none ∨ second.content = none)

variable {first second : Rewriting}

theorem Apart.andThen_comm (apart : first.Apart second) :
    first.andThen second = second.andThen first := by
  have either {own other : Option String} (one : own = none ∨ other = none) :
      own.or other = other.or own := by
    rcases one with rfl | rfl
    · rw [Option.none_or, Option.or_none]
    · rw [Option.none_or, Option.or_none]
  rw [andThen, andThen, either apart.1, either apart.2]

theorem Warranted.apart {node other : Node} {taken others : List String}
    (own : first.Warranted node taken) (further : second.Warranted other others)
    (disjoint : taken.Disjoint others) : first.Apart second := by
  constructor
  · by_contra both
    obtain ⟨mine, yours⟩ := not_or.mp both
    exact disjoint (own.classes mine).1 (further.classes yours).1
  · by_contra both
    obtain ⟨mine, yours⟩ := not_or.mp both
    exact disjoint (own.content mine).1 (further.content yours).1

end Rewriting

theorem Node.rewritten_comm {first second : Rewriting} (apart : first.Apart second) (node : Node)
    (taken others : List String) :
    (node.rewritten taken first).rewritten others second =
      (node.rewritten others second).rewritten taken first := by
  have fields : (node.fields.filter fun entry => entry.1 ∉ taken ++ others) =
      node.fields.filter fun entry => entry.1 ∉ others ++ taken := by
    apply List.filter_congr
    intro entry _
    simp [Bool.and_comm]
  calc
    (node.rewritten taken first).rewritten others second =
        node.rewritten (taken ++ others) (first.andThen second) :=
      rewritten_rewritten node taken others first second
    _ = node.rewritten (others ++ taken) (second.andThen first) := by
      rw [apart.andThen_comm, rewritten, rewritten, fields]
    _ = (node.rewritten others second).rewritten taken first :=
      (rewritten_rewritten node others taken second first).symm

namespace Extension

def Apart (first second : Extension) : Prop := first.owned.Disjoint second.owned

variable {extension first second : Extension} {scope : Scope} {node middle changed : Node}

theorem Apart.symm (apart : first.Apart second) : second.Apart first := List.Disjoint.symm apart

theorem Apart.decision_rewritten (apart : first.Apart second) (scope : Scope) (node : Node)
    (rewriting : Rewriting) :
    second.decision scope (node.rewritten first.owned rewriting) = second.decision scope node := by
  apply decision_congr
  intro name own
  rw [Node.field?_rewritten, if_neg fun taken => apart taken own]

theorem Apart.swap (apart : first.Apart second) (canonical : first.IsCanonical)
    (alsoCanonical : second.IsCanonical) (one : first.apply scope node = .ok (.proceed middle))
    (two : second.apply scope middle = .ok (.proceed changed)) :
    ∃ between, second.apply scope node = .ok (.proceed between) ∧
      first.apply scope between = .ok (.proceed changed) := by
  obtain ⟨rewriting, decided, rfl, warranted⟩ := exists_of_apply_eq_proceed canonical one
  obtain ⟨later, further, rfl, alsoWarranted⟩ := exists_of_apply_eq_proceed alsoCanonical two
  have written : rewriting.Apart later := warranted.apart alsoWarranted apart
  refine ⟨node.rewritten second.owned later, ?_, ?_⟩
  · rw [apply_eq alsoCanonical, ← apart.decision_rewritten scope node rewriting, further]
    rfl
  · rw [apply_eq canonical, apart.symm.decision_rewritten scope node later, decided,
      Node.rewritten_comm written]
    rfl

/-- A node that goes on through extensions apart from each other does so in any order. -/
theorem applyAll_perm {extensions others : List Extension} (perm : extensions.Perm others)
    (canonical : ∀ extension ∈ extensions, extension.IsCanonical)
    (apart : extensions.Pairwise Apart)
    (applied : applyAll scope extensions node = .ok (.proceed changed)) :
    applyAll scope others node = .ok (.proceed changed) := by
  -- Neighbours are exchanged one pair at a time, with any node that has come so far.
  induction perm generalizing node with
  | nil => exact applied
  | cons first behind ih =>
      obtain ⟨next, own, applied⟩ := applyAll_cons_eq_proceed_iff.mp applied
      have rest := ih (List.forall_mem_cons.mp canonical).2 apart.of_cons applied
      exact applyAll_cons_eq_proceed_iff.mpr ⟨next, own, rest⟩
  | swap second first rest =>
      obtain ⟨middle, one, applied⟩ := applyAll_cons_eq_proceed_iff.mp applied
      obtain ⟨next, two, applied⟩ := applyAll_cons_eq_proceed_iff.mp applied
      obtain ⟨own, others⟩ := List.forall_mem_cons.mp canonical
      have between : first.Apart second := List.rel_of_pairwise_cons apart List.mem_cons_self
      obtain ⟨other, before, behind⟩ :=
        between.swap own (List.forall_mem_cons.mp others).1 one two
      have tail := applyAll_cons_eq_proceed_iff.mpr ⟨next, behind, applied⟩
      exact applyAll_cons_eq_proceed_iff.mpr ⟨other, before, tail⟩
  | trans toMiddle _ first second =>
      have between := first canonical apart applied
      refine second ?_ ?_ between
      · intro extension member
        exact canonical extension (toMiddle.mem_iff.mpr member)
      · exact (toMiddle.pairwise_iff Apart.symm).mp apart

theorem apart_canonicalWith (transform : Option String) :
    (canonicalWith transform).Pairwise Apart := by
  simp [canonicalWith, Apart, owned, ClassShortcut.fields, VisibleIf.field, Foreach.field]

theorem apply_eq_stop_iff (canonical : extension.IsCanonical) :
    extension.apply scope node = .ok .stop ↔ extension.decision scope node = .ok none := by
  rw [apply_eq canonical]
  cases extension.decision scope node with
  | error fault => exact ⟨nofun, nofun⟩
  | ok decision =>
      cases decision with
      | none => exact ⟨fun _ => rfl, fun _ => rfl⟩
      | some rewriting => exact ⟨nofun, nofun⟩

theorem apart_visibleIf (canonical : extension.IsCanonical) (differs : extension ≠ .visibleIf) :
    extension.Apart .visibleIf := by
  cases extension with
  | visibleIf => exact absurd rfl differs
  | classShortcut transform => simp [Apart, owned, ClassShortcut.fields, VisibleIf.field]
  | foreach => simp [Apart, owned, Foreach.field, VisibleIf.field]
  | custom name change => exact False.elim canonical

theorem visibleIf_stops {extensions : List Extension}
    (canonical : ∀ extension ∈ extensions, extension.IsCanonical)
    (stops : applyAll scope extensions node = .ok .stop) :
    Extension.visibleIf.apply scope node = .ok .stop := by
  induction extensions generalizing node with
  | nil => cases stops
  | cons first rest ih =>
      obtain ⟨own, others⟩ := List.forall_mem_cons.mp canonical
      obtain ⟨verdict, step, stops⟩ := exists_of_bind_eq_ok stops
      cases verdict with
      | stop =>
          rcases decision_cases ((apply_eq_stop_iff own).mp step) with ⟨_, rfl⟩ | ⟨_, goes, _⟩
          · exact step
          · cases goes
      | proceed next =>
          have later := ih others stops
          obtain ⟨rewriting, _, rfl, _⟩ := exists_of_apply_eq_proceed own step
          by_cases same : first = .visibleIf
          · -- Its field has been taken, so it does not stop the node any more.
            subst same
            have spent : ∀ name ∈ owned .visibleIf,
                (node.rewritten (owned .visibleIf) rewriting).field? name = none := by
              intro name taken
              rw [Node.field?_rewritten, if_pos taken]
            cases (apply_of_absent own spent scope).symm.trans later
          · have standard : Extension.visibleIf.IsCanonical := trivial
            have unseen := (apart_visibleIf own same).decision_rewritten scope node rewriting
            rw [apply_eq_stop_iff standard] at later ⊢
            exact unseen.symm.trans later

/--
If a node comes through the extensions of the library in any order without a fault, so it does in
the order of the library, and with the same outcome: it stops, or it goes on as the same node.
-/
theorem applyAll_of_reordered {transform : Option String} {extensions : List Extension}
    (reordered : extensions.Perm (canonicalWith transform)) {verdict : Verdict}
    (applied : applyAll scope extensions node = .ok verdict) :
    applyAll scope (canonicalWith transform) node = .ok verdict := by
  have canonical : ∀ extension ∈ extensions, extension.IsCanonical := by
    intro extension member
    exact isCanonical_canonicalWith transform extension (reordered.mem_iff.mp member)
  cases verdict with
  | proceed changed =>
      have apart := (reordered.pairwise_iff Apart.symm).mpr (apart_canonicalWith transform)
      exact applyAll_perm reordered canonical apart applied
  | stop =>
      rw [canonicalWith, applyAll, visibleIf_stops canonical applied]
      rfl

theorem crowdedItem_reordered :
    [Extension.foreach, .classShortcut none, .visibleIf].Perm (canonicalWith none) ∧
    applyAll .ofItems [.foreach, .classShortcut none, .visibleIf] .crowdedItem =
      .ok (.proceed .clearedItem) ∧
    applyAll .ofItems (canonicalWith none) .crowdedItem = .ok (.proceed .clearedItem) := by
  have reordered : [Extension.foreach, .classShortcut none, .visibleIf].Perm (canonicalWith none) :=
    List.reverse_perm (canonicalWith none)
  have applied : applyAll .ofItems [.foreach, .classShortcut none, .visibleIf] .crowdedItem =
      .ok (.proceed .clearedItem) := by cbv
  exact ⟨reordered, applied, applyAll_of_reordered reordered applied⟩

def hiddenItem : Node where
  fields := [("visibleIf", .bool false), ("foreach", .bool true)]

example : applyAll .ofItems (canonicalWith none) hiddenItem = .ok .stop ∧
    applyAll .ofItems [.foreach, .classShortcut none, .visibleIf] hiddenItem =
      .error (.invalidTree (.iterationShape .boolean)) := by
  constructor <;> cbv

end Extension

end MarkupTree
