import Mathlib
import MarkupTree.Concurrent.Deferred

/-!
How answers that are waited for together come to one. All of them have to succeed; otherwise the
fault is that of the first, from left to right, of those that have failed by the round in which the
wait ends. Where several of them fail this is the first of all, unless one behind it fails in an
earlier round and no fault is held back.
-/

namespace MarkupTree.Deferred

variable {ε ε' α β ι : Type}

@[simp]
theorem outcome_done (result : Except ε α) : (Deferred.done result).outcome = result := rfl

@[simp]
theorem outcome_pure (value : α) : (pure value : Deferred ε α).outcome = .ok value := rfl

@[simp]
theorem outcome_bind (x : Deferred ε α) (next : α → Deferred ε β) :
    (x >>= next).outcome = x.outcome >>= fun value => (next value).outcome := by
  induction x with
  | done result => cases result <;> rfl
  | later rest ih => exact ih

@[simp]
theorem outcome_map (f : α → β) (x : Deferred ε α) : (f <$> x).outcome = f <$> x.outcome := by
  change (x >>= fun value => pure (f value)).outcome = _
  rw [outcome_bind]
  cases x.outcome <;> rfl

@[simp]
theorem outcome_convert (reading : Except ε α → Except ε' β) (x : Deferred ε α) :
    (x.convert reading).outcome = reading x.outcome := by
  induction x with
  | done result => rfl
  | later rest ih => exact ih

theorem rounds_map (f : α → β) (x : Deferred ε α) : (f <$> x).rounds = x.rounds := by
  induction x with
  | done result => cases result <;> rfl
  | later rest ih => exact congrArg (· + 1) ih

theorem both_eq_pair (held : Bool) (x : Deferred ε α) (second : Unit → Deferred ε β) :
    both held x second = pair held x (second ()) := by
  unfold both
  split
  · rw [pair]
  · rfl

theorem eq_done_of_rounds {x : Deferred ε α} (prompt : x.rounds = 0) : x = .done x.outcome := by
  cases x with
  | done result => rfl
  | later rest => cases prompt

theorem rounds_convert (reading : Except ε α → Except ε' β) (x : Deferred ε α) :
    (x.convert reading).rounds = x.rounds := by
  induction x with
  | done result => rfl
  | later rest ih => exact congrArg (· + 1) ih

theorem rounds_bind_of_prompt {x : Deferred ε α} {next : α → Deferred ε β} (first : x.rounds = 0)
    (each : ∀ value, (next value).rounds = 0) : (x >>= next).rounds = 0 := by
  rw [eq_done_of_rounds first]
  cases x.outcome with
  | error fault => rfl
  | ok value => exact each value

theorem rounds_pair_of_prompt {held : Bool} {x : Deferred ε α} {y : Deferred ε β}
    (first : x.rounds = 0) (second : y.rounds = 0) : (pair held x y).rounds = 0 := by
  rw [eq_done_of_rounds first, eq_done_of_rounds second]
  cases x.outcome with
  | error fault => rfl
  | ok value => cases y.outcome <;> rfl

/-- A fault that is there ends the wait, unless it is held back behind an answer that suspends. -/
theorem pair_error {held : Bool} {x : Deferred ε α} {value : α} (succeeds : x.outcome = .ok value)
    (swift : held = true → x.rounds = 0) (fault : ε) :
    pair held x (.done (.error fault) : Deferred ε β) = .done (.error fault) := by
  cases x with
  | done result =>
      obtain rfl : result = .ok value := succeeds
      rfl
  | later rest =>
      cases held with
      | false => rfl
      | true => cases swift rfl

section Pair

variable {held : Bool} {x : Deferred ε α} {y : Deferred ε β}

theorem outcome_pair_eq_ok_iff {values : α × β} : (pair held x y).outcome = .ok values ↔
    x.outcome = .ok values.1 ∧ y.outcome = .ok values.2 := by
  fun_induction pair held x y with
  | case1 fault y => exact iff_of_false nofun nofun
  | case2 value y =>
      rw [outcome_map]
      cases y.outcome <;> simp [outcome, Functor.map, Except.map, Prod.ext_iff]
  | case3 rest fault isHeld ih => exact ih
  | case4 rest fault eager => exact iff_of_false nofun nofun
  | case5 rest value ih => exact ih
  | case6 rest other ih => exact ih

theorem outcome_pair_cases {fault : ε} (failed : (pair held x y).outcome = .error fault) :
    (x.outcome = .error fault ∧ (pair held x y).rounds = x.rounds ∧
      (held = false → ∀ other, y.outcome = .error other → x.rounds ≤ y.rounds)) ∨
    (y.outcome = .error fault ∧
      (∀ other, x.outcome = .error other → held = false ∧ y.rounds < x.rounds) ∧
      y.rounds ≤ (pair held x y).rounds ∧
      (held = false → (pair held x y).rounds = y.rounds)) := by
  fun_induction pair held x y with
  | case1 own y =>
      obtain rfl := Except.error.inj failed
      exact .inl ⟨rfl, rfl, fun _ _ _ => Nat.zero_le _⟩
  | case2 value y =>
      have same := rounds_map (fun other => (value, other)) y
      refine .inr ⟨?_, nofun, same.ge, fun _ => same⟩
      rw [outcome_map] at failed
      cases answered : y.outcome with
      | error own =>
          rw [answered] at failed
          exact congrArg Except.error (Except.error.inj failed)
      | ok other =>
          rw [answered] at failed
          cases failed
  | case3 rest own isHeld ih =>
      have patient : held ≠ false := ne_false_of_eq_true isHeld
      obtain ⟨first, same, -⟩ | ⟨second, first, -⟩ := ih failed
      · exact .inl ⟨first, congrArg (· + 1) same, fun eager => absurd eager patient⟩
      · exact .inr ⟨second, fun other failed => absurd (first other failed).1 patient,
          Nat.zero_le _, fun eager => absurd eager patient⟩
  | case4 rest own eager =>
      obtain rfl := Except.error.inj failed
      exact .inr ⟨rfl, fun _ _ => ⟨eq_false_of_ne_true eager, Nat.succ_pos _⟩, Nat.le_refl _,
        fun _ => rfl⟩
  | case5 rest value ih =>
      obtain ⟨first, same, -⟩ | ⟨second, -⟩ := ih failed
      · exact .inl ⟨first, congrArg (· + 1) same, nofun⟩
      · cases second
  | case6 rest other ih =>
      obtain ⟨first, same, before⟩ | ⟨second, first, bound, eager⟩ := ih failed
      · exact .inl ⟨first, congrArg (· + 1) same,
          fun swift own failed => Nat.succ_le_succ (before swift own failed)⟩
      · exact .inr ⟨second, fun own failed => (first own failed).imp_right Nat.succ_lt_succ,
          Nat.succ_le_succ bound, fun swift => congrArg (· + 1) (eager swift)⟩

end Pair

def faultBy (round : Nat) (x : Deferred ε α) : Option ε :=
  match x.outcome with
  | .error fault => if x.rounds ≤ round then some fault else none
  | .ok _ => none

/-- The first of the faults with which some of the answers have failed by a round. -/
def firstFault (ask : ι → Deferred ε α) (items : List ι) (round : Nat) : Option ε :=
  items.findSome? fun item => (ask item).faultBy round

/-- The first of all faults, which none behind it forestalls: that would have to come in an earlier
round, and is held back in a queue. -/
def FailsFirst (ask : ι → Deferred ε α) (items : List ι) (fault : ε) : Prop :=
  ∃ before item behind, items = before ++ item :: behind ∧
    (∀ earlier ∈ before, ∃ value, (ask earlier).outcome = .ok value) ∧
    (ask item).outcome = .error fault ∧
    (isQueued items = true ∨ ∀ later ∈ behind, ∀ other,
      (ask later).outcome = .error other → (ask item).rounds ≤ (ask later).rounds)

theorem faultBy_of_failed {x : Deferred ε α} {fault : ε} {round : Nat}
    (failed : x.outcome = .error fault) (reached : x.rounds ≤ round) :
    x.faultBy round = some fault := by
  rw [faultBy, failed]
  exact if_pos reached

theorem faultBy_eq_none {x : Deferred ε α} {round : Nat}
    (away : ∀ fault, x.outcome = .error fault → round < x.rounds) : x.faultBy round = none := by
  unfold faultBy
  split
  · rename_i fault failed
    exact if_neg (Nat.not_le.mpr (away fault failed))
  · rfl

theorem exists_of_firstFault {ask : ι → Deferred ε α} {items : List ι} {fault : ε} {round : Nat}
    (first : firstFault ask items round = some fault) :
    ∃ item ∈ items, (ask item).outcome = .error fault ∧ (ask item).rounds ≤ round := by
  obtain ⟨item, member, found⟩ := List.exists_of_findSome?_eq_some first
  unfold faultBy at found
  split at found
  · rename_i own failed
    split at found
    · rename_i reached
      cases found
      exact ⟨item, member, failed, reached⟩
    · cases found
  · cases found

section All

variable {held : Bool} {ask : ι → Deferred ε α} {items : List ι} {fault : ε}

theorem all_cons (item : ι) (rest : List ι) : all held ask (item :: rest) =
    (fun values => values.1 :: values.2) <$> pair held (ask item) (all held ask rest) := by
  rw [all, both_eq_pair]
  rfl

theorem outcome_all_eq_ok_iff {values : List α} : (all held ask items).outcome = .ok values ↔
    List.Forall₂ (fun item value => (ask item).outcome = .ok value) items values := by
  induction items generalizing values with
  | nil =>
      rw [all, outcome_pure, List.forall₂_nil_left_iff]
      exact ⟨fun same => (Except.ok.inj same).symm, fun same => congrArg Except.ok same.symm⟩
  | cons item rest ih =>
      rw [all_cons, outcome_map, List.forall₂_cons_left_iff]
      constructor
      · intro succeeded
        cases answered : (pair held (ask item) (all held ask rest)).outcome with
        | error fault => rw [answered] at succeeded; cases succeeded
        | ok both =>
            rw [answered] at succeeded
            obtain ⟨first, others⟩ := outcome_pair_eq_ok_iff.mp answered
            exact ⟨_, _, first, ih.mp others, (Except.ok.inj succeeded).symm⟩
      · rintro ⟨value, others, first, each, rfl⟩
        have both : (pair held (ask item) (all held ask rest)).outcome = .ok (value, others) :=
          outcome_pair_eq_ok_iff.mpr ⟨first, ih.mpr each⟩
        rw [both]
        rfl

theorem outcome_map_eq_error_iff {f : α → β} {x : Deferred ε α} :
    (f <$> x).outcome = .error fault ↔ x.outcome = .error fault := by
  rw [outcome_map]
  cases x.outcome <;> simp [Functor.map, Except.map]

theorem firstFault_of_outcome_all (failed : (all held ask items).outcome = .error fault)
    {round : Nat} (reached : (all held ask items).rounds ≤ round)
    (exact : held = false → round = (all held ask items).rounds) :
    firstFault ask items round = some fault := by
  induction items generalizing round with
  | nil => cases failed
  | cons item rest ih =>
      rw [all_cons, rounds_map] at reached exact
      rw [all_cons, outcome_map_eq_error_iff] at failed
      rw [firstFault, List.findSome?_cons]
      obtain ⟨first, same, -⟩ | ⟨second, first, bound, eager⟩ := outcome_pair_cases failed
      · rw [faultBy_of_failed first (same.ge.trans reached)]
      · have away (own : ε) (failed : (ask item).outcome = .error own) :
            round < (ask item).rounds := by
          obtain ⟨swift, earlier⟩ := first own failed
          rw [exact swift, eager swift]
          exact earlier
        rw [faultBy_eq_none away]
        exact ih second (bound.trans reached) fun swift => (exact swift).trans (eager swift)

theorem exists_outcome_all_eq_ok_iff : (∃ values, (all held ask items).outcome = .ok values) ↔
    ∀ item ∈ items, ∃ value, (ask item).outcome = .ok value := by
  simp only [outcome_all_eq_ok_iff]
  induction items with
  | nil => simp
  | cons item rest ih => simp [List.forall₂_cons_left_iff, ih]

theorem exists_outcome_all_eq_error_iff : (∃ fault, (all held ask items).outcome = .error fault) ↔
    ∃ item ∈ items, ∃ fault, (ask item).outcome = .error fault := by
  have split {γ : Type} (result : Except ε γ) :
      (∃ fault, result = .error fault) ↔ ¬ ∃ value, result = .ok value := by
    cases result <;> simp
  simp only [split, exists_outcome_all_eq_ok_iff, not_forall, exists_prop]

/-- The fault of all is the first of those that have come when the wait ends. -/
theorem outcome_all_eq_error_iff : (all held ask items).outcome = .error fault ↔
    firstFault ask items (all held ask items).rounds = some fault := by
  have sound {own : ε} (failed : (all held ask items).outcome = .error own) :
      firstFault ask items (all held ask items).rounds = some own :=
    firstFault_of_outcome_all failed (Nat.le_refl _) fun _ => rfl
  refine ⟨sound, fun first => ?_⟩
  obtain ⟨item, member, failed, -⟩ := exists_of_firstFault first
  obtain ⟨own, answered⟩ := exists_outcome_all_eq_error_iff.mpr ⟨item, member, fault, failed⟩
  rw [answered, Option.some.inj ((sound answered).symm.trans first)]

theorem outcome_all_of_prompt (prompt : ∀ item ∈ items, (ask item).rounds = 0) :
    (all held ask items).outcome = .error fault ↔ firstFault ask items 0 = some fault := by
  have same (round : Nat) : firstFault ask items round = firstFault ask items 0 := by
    unfold firstFault
    induction items with
    | nil => rfl
    | cons item rest ih =>
        obtain ⟨own, others⟩ := List.forall_mem_cons.mp prompt
        have shown : (ask item).faultBy round = (ask item).faultBy 0 := by
          simp only [faultBy, own, Nat.zero_le, if_true]
        rw [List.findSome?_cons, List.findSome?_cons, shown, ih others]
  rw [outcome_all_eq_error_iff, same]

theorem rounds_all_le (failed : (all false ask items).outcome = .error fault) {item : ι}
    (member : item ∈ items) {own : ε} (ended : (ask item).outcome = .error own) :
    (all false ask items).rounds ≤ (ask item).rounds := by
  induction items generalizing fault with
  | nil => cases member
  | cons first rest ih =>
      rw [all_cons, outcome_map_eq_error_iff] at failed
      rw [all_cons, rounds_map]
      obtain ⟨-, same, ahead⟩ | ⟨second, ahead, -, same⟩ := outcome_pair_cases failed
      · rw [same]
        rcases List.mem_cons.mp member with rfl | member
        · exact Nat.le_refl _
        · obtain ⟨other, failed⟩ := exists_outcome_all_eq_error_iff.mpr ⟨item, member, own, ended⟩
          exact (ahead rfl other failed).trans (ih failed member)
      · rw [same rfl]
        rcases List.mem_cons.mp member with rfl | member
        · exact (ahead own ended).2.le
        · exact ih second member

theorem outcome_all_of_firstFault_eq {others : List ι}
    (same : ∀ round, firstFault ask items round = firstFault ask others round)
    (failed : (all held ask items).outcome = .error fault) :
    (all held ask others).outcome = .error fault := by
  have first := outcome_all_eq_error_iff.mp failed
  obtain ⟨item, member, ended, reached⟩ := exists_of_firstFault ((same _).symm.trans first)
  obtain ⟨own, answered⟩ : ∃ own, (all held ask others).outcome = .error own :=
    exists_outcome_all_eq_error_iff.mpr ⟨item, member, fault, ended⟩
  have other := outcome_all_eq_error_iff.mp answered
  cases held with
  | true =>
      -- With faults held back, both waits may be taken to end in the later of their last rounds.
      have own_late := firstFault_of_outcome_all answered
        (le_max_right (all true ask items).rounds _) nofun
      have late := firstFault_of_outcome_all failed
        (le_max_left _ (all true ask others).rounds) nofun
      rw [answered, Option.some.inj (own_late.symm.trans ((same _).symm.trans late))]
  | false =>
      obtain ⟨item', member', ended', reached'⟩ := exists_of_firstFault ((same _).trans other)
      have rounds : (all false ask others).rounds = (all false ask items).rounds :=
        le_antisymm ((rounds_all_le answered member ended).trans reached)
          ((rounds_all_le failed member' ended').trans reached')
      rw [rounds, ← same, first] at other
      rw [answered, Option.some.inj other]

/--
The first answer that fails gives the fault, also where it comes late, unless one behind it fails in
an earlier round and is not held back.
-/
theorem outcome_all_of_first {before behind : List ι} {item : ι}
    (succeed : ∀ earlier ∈ before, ∃ value, (ask earlier).outcome = .ok value)
    (failed : (ask item).outcome = .error fault)
    (ahead : held = true ∨ ∀ other ∈ behind, ∀ own,
      (ask other).outcome = .error own → (ask item).rounds ≤ (ask other).rounds) :
    (all held ask (before ++ item :: behind)).outcome = .error fault := by
  have silent (round : Nat) : before.findSome? (fun earlier => (ask earlier).faultBy round) = none := by
    refine List.findSome?_eq_none_iff.mpr fun earlier member => faultBy_eq_none fun other ended => ?_
    obtain ⟨value, succeeded⟩ := succeed earlier member
    cases succeeded.symm.trans ended
  have first {round : Nat} (reached : (ask item).rounds ≤ round) :
      firstFault ask (before ++ item :: behind) round = some fault := by
    rw [firstFault, List.findSome?_append, silent, List.findSome?_cons,
      faultBy_of_failed failed reached]
    rfl
  obtain ⟨own, answered⟩ : ∃ own, (all held ask (before ++ item :: behind)).outcome = .error own :=
    exists_outcome_all_eq_error_iff.mpr
      ⟨item, List.mem_append_right _ List.mem_cons_self, fault, failed⟩
  cases held with
  | true =>
      have late := firstFault_of_outcome_all answered
        (le_max_left _ (ask item).rounds) nofun
      rw [answered, Option.some.inj (late.symm.trans (first (le_max_right _ _)))]
  | false =>
      have ahead := ahead.resolve_left nofun
      obtain ⟨other, member, ended, reached⟩ :=
        exists_of_firstFault (outcome_all_eq_error_iff.mp answered)
      have in_time : (ask item).rounds ≤ (all false ask (before ++ item :: behind)).rounds := by
        rcases List.mem_append.mp member with earlier | other_member
        · obtain ⟨value, succeeded⟩ := succeed other earlier
          cases succeeded.symm.trans ended
        · rcases List.mem_cons.mp other_member with rfl | later
          · exact reached
          · exact (ahead other later own ended).trans reached
      exact outcome_all_eq_error_iff.mpr (first in_time)

theorem outcome_all_singleton (item : ι) :
    (all held ask [item]).outcome = (fun value => [value]) <$> (ask item).outcome := by
  cases answered : (ask item).outcome with
  | ok value => exact outcome_all_eq_ok_iff.mpr (.cons answered .nil)
  | error fault =>
      change (all held ask ([] ++ item :: [])).outcome = .error fault
      exact outcome_all_of_first nofun answered (.inr nofun)

theorem FailsFirst.outcome_join (first : FailsFirst ask items fault) :
    (join ask items).outcome = .error fault := by
  obtain ⟨before, item, behind, rfl, succeed, failed, ahead⟩ := first
  exact outcome_all_of_first succeed failed ahead

end All

end MarkupTree.Deferred
