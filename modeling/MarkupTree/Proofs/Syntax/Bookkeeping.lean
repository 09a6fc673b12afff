import MarkupTree.Proofs.Syntax.Balance

/-!
What holds wherever the parser comes to. The routines that it runs are reached one from another, so
what a routine hands on is known of all of them: the counter of levels within its limit, a place
within the tokens, and no more open calls than the counter allows. A failure is handed back to the
start; so a level beyond the limit ends the parse.
-/

namespace MarkupTree

namespace Cursor

/-- The place behind so many of the tokens of a source. -/
structure At (finish : Nat) (tokens : List Located) (passed : Nat) (cursor : Cursor) : Prop where
  within : passed ≤ tokens.length
  rest : cursor.rest = tokens.drop passed
  finish : cursor.finish = finish

section

variable {finish passed : Nat} {tokens : List Located} {cursor : Cursor}

theorem at_of_suffix (rest : cursor.rest <:+ tokens) (same : cursor.finish = finish) :
    cursor.At finish tokens (tokens.length - cursor.rest.length) :=
  ⟨Nat.sub_le _ _, List.suffix_iff_eq_drop.mp rest, same⟩

theorem At.lands {after : Cursor} {least closed opened : Nat}
    (stands : cursor.At finish tokens passed) (lands : cursor.Lands least closed opened after) :
    ∃ further, after.At finish tokens further ∧ passed + least ≤ further := by
  have rest : after.rest <:+ tokens := by
    apply lands.rest.trans
    rw [stands.rest]
    exact List.drop_suffix passed tokens
  have left : cursor.rest.length = tokens.length - passed := by
    rw [stands.rest, List.length_drop]
  have within := stands.within
  have moved := lands.moved
  exact ⟨_, at_of_suffix rest (lands.finish.trans stands.finish), by omega⟩

theorem At.position_eq (stands : cursor.At finish tokens passed) :
    cursor.position = tokens[passed]?.elim finish Located.start := by
  rw [← List.head?_drop, ← stands.rest, position]
  cases cursor.rest with
  | nil => exact stands.finish
  | cons next others => rfl

end

end Cursor

namespace Parser

/-- The routines that are run to parse tokens, each at its place and with the number of calls that are
open, its own among them. -/
inductive Reached (finish : Nat) (tokens : List Located) : Nat → Routine → Cursor → Prop
  | start : Reached finish tokens 1 .expression ⟨tokens, 0, finish⟩
  | call {depth : Nat} {routine inner : Routine} {cursor place : Cursor}
      (outer : Reached finish tokens depth routine cursor)
      (does : (routine.plan cursor).Does (.call inner place)) :
      Reached finish tokens (depth + 1) inner place
  | turn {depth : Nat} {routine inner : Routine} {cursor place : Cursor}
      (outer : Reached finish tokens depth routine cursor)
      (does : (routine.plan cursor).Does (.turn inner place)) :
      Reached finish tokens depth inner place

theorem expression_of_whole {finish position : Nat} {tokens : List Located}
    (deep : whole finish tokens = .error (.tooDeep position)) :
    Routine.run .expression ⟨tokens, 0, finish⟩ = .error (.tooDeep position) := by
  rw [whole_step] at deep
  rw [Routine.run]
  cases read : landed (expression ⟨tokens, 0, finish⟩) with
  | error cause =>
      rw [read] at deep
      exact congrArg Except.error (Except.error.inj deep)
  | ok found =>
      obtain ⟨cause, failed, other⟩ := unexpected_ne_tooDeep Expr found.2 .endOfExpression
      rw [read] at deep
      simp only [bind, Except.bind] at deep
      split at deep
      · cases deep
      · rw [failed] at deep
        exact absurd (Except.error.inj deep) (other position)

namespace Reached

variable {finish depth : Nat} {tokens : List Located} {routine : Routine} {cursor : Cursor}

theorem keeps_account (reached : Reached finish tokens depth routine cursor) :
    routine.Fits cursor ∧ cursor.rest <:+ tokens ∧ cursor.finish = finish ∧
      depth ≤ routine.calls cursor := by
  induction reached with
  | start =>
      exact ⟨⟨Nat.zero_le _, Nat.zero_le _, Nat.zero_le _⟩, List.suffix_rfl, rfl, Nat.le_add_left 1 10⟩
  | call outer does ih =>
      obtain ⟨fits, rest, finish, calls⟩ := ih
      have hands : Routine.Hands 1 _ _ _ _ := fits.keeps.of_does does
      have more := hands.calls
      exact ⟨hands.fits, hands.rest.trans rest, hands.finish.trans finish, by omega⟩
  | turn outer does ih =>
      obtain ⟨fits, rest, finish, calls⟩ := ih
      have hands : Routine.Hands 0 _ _ _ _ := fits.keeps.of_does does
      exact ⟨hands.fits, hands.rest.trans rest, hands.finish.trans finish,
        Nat.le_trans calls hands.calls⟩

theorem whole_eq_error (reached : Reached finish tokens depth routine cursor) {cause : SyntaxError}
    (failed : routine.run cursor = .error cause) : whole finish tokens = .error cause := by
  induction reached with
  | start =>
      rw [Routine.run] at failed
      rw [whole_step, failed]
      rfl
  | call outer does ih | turn outer does ih =>
      apply ih
      rw [Routine.run_eq_plan]
      exact does.run_eq_error failed

theorem whole_eq_tooDeep (reached : Reached finish tokens depth routine cursor) {place : Cursor}
    (does : (routine.plan cursor).Does (.enter place)) (full : nestingLimit < place.nesting + 1) :
    whole finish tokens = .error (.tooDeep place.position) := by
  apply reached.whole_eq_error
  rw [Routine.run_eq_plan]
  exact does.run_eq_error (if_pos full)

theorem exists_enter {depth : Nat} {routine : Routine} {cursor : Cursor} {position : Nat}
    (reached : Reached finish tokens depth routine cursor)
    (deep : routine.run cursor = .error (.tooDeep position)) :
    ∃ depth routine cursor place, Reached finish tokens depth routine cursor ∧
      (routine.plan cursor).Does (.enter place) ∧ place.nesting = nestingLimit ∧
      place.position = position := by
  have keeps := reached.keeps_account.1.keeps
  rw [Routine.run_eq_plan] at deep
  rcases keeps.run_cases with ends | ⟨act, cause, does, fails, stops⟩
  · rw [deep] at ends
    exact absurd rfl (ends position)
  obtain rfl : cause = .tooDeep position := Except.error.inj (stops.symm.trans deep)
  have proper := keeps.of_does does
  cases act with
  | enter place =>
      rw [Act.perform, guarded] at fails
      split at fails
      · cases fails
        have room : place.nesting ≤ nestingLimit := proper.2.2
        exact ⟨_, _, _, place, reached, does, by omega, rfl⟩
      · cases fails
  | leave place levels => cases fails
  | call inner place => exact exists_enter (reached.call does) fails
  | turn inner place => exact exists_enter (reached.turn does) fails
termination_by (cursor.rest.length, routine.rank)
decreasing_by all_goals exact Prod.lex_def.mpr (Routine.Hands.below proper)

end Reached

/--
The parser does what the plans of its routines say, and its books balance wherever it comes to. A
routine that succeeds leaves the counter as it found it, and has passed one token at least but not the
end; a loop gives back the levels that were opened for it as well, and may pass none. Levels are given
back only where they are open. One more than the limit is opened only to end the parse, at the next
token or at the end of the source. So there is a bound on the calls that are open at a time.
-/
theorem nesting_balanced (finish : Nat) (tokens : List Located) :
    (∀ routine cursor, Routine.run routine cursor = (routine.plan cursor).run) ∧
    (∀ depth routine cursor, Reached finish tokens depth routine cursor →
      depth ≤ 12 * (nestingLimit + 1) ∧ cursor.nesting ≤ nestingLimit ∧
      ∃ passed, cursor.At finish tokens passed ∧
        (∀ tree after, routine.run cursor = .ok (tree, after) →
          after.nesting + routine.opened = cursor.nesting ∧
            ∃ further, after.At finish tokens further ∧ passed + routine.least ≤ further) ∧
        (∀ place levels, (routine.plan cursor).Does (.leave place levels) →
          levels ≤ place.nesting) ∧
        ∀ place, (routine.plan cursor).Does (.enter place) →
          place.deeper.nesting ≤ nestingLimit + 1 ∧
            ∃ ahead, place.At finish tokens ahead ∧
              (place.deeper.nesting = nestingLimit + 1 → whole finish tokens =
                .error (.tooDeep (tokens[ahead]?.elim finish Located.start)))) ∧
    ∀ position, whole finish tokens = .error (.tooDeep position) →
      ∃ depth routine cursor place, Reached finish tokens depth routine cursor ∧
        (routine.plan cursor).Does (.enter place) ∧ place.deeper.nesting = nestingLimit + 1 ∧
        place.position = position := by
  refine ⟨Routine.run_eq_plan, ?_, ?_⟩
  · intro depth routine cursor reached
    obtain ⟨fits, rest, same, calls⟩ := reached.keeps_account
    have stands := Cursor.at_of_suffix rest same
    have room := fits.room
    have stage := routine.stage_le
    refine ⟨?_, room, _, stands, ?_, ?_, ?_⟩
    · rw [Routine.calls] at calls
      omega
    · intro tree after read
      have returns := Routine.returns_of_run routine cursor fits read
      exact ⟨returns.level, stands.lands returns⟩
    · intro place levels does
      exact fits.keeps.of_does does
    · intro place does
      obtain ⟨ahead, finish_same, room⟩ := fits.keeps.of_does does
      have place_stands := Cursor.at_of_suffix (ahead.trans rest) (finish_same.trans same)
      refine ⟨Nat.succ_le_succ room, _, place_stands, ?_⟩
      intro beyond
      rw [← place_stands.position_eq]
      exact reached.whole_eq_tooDeep does (Nat.le_of_eq beyond.symm)
  · intro position deep
    obtain ⟨depth, routine, cursor, place, reached, does, level, here⟩ :=
      Reached.start.exists_enter (expression_of_whole deep)
    exact ⟨depth, routine, cursor, place, reached, does, congrArg (· + 1) level, here⟩

def memberOfCall : List Located :=
  [⟨.identifier ['f'], 0, 1⟩, ⟨.symbol .openParen, 1, 2⟩, ⟨.identifier ['x'], 2, 3⟩,
    ⟨.symbol .closeParen, 3, 4⟩, ⟨.symbol .dot, 4, 5⟩, ⟨.identifier ['y'], 5, 6⟩]

def negations : List Located :=
  (List.range nestingLimit).map fun index => ⟨.symbol .not, index, index + 1⟩

theorem memberOfCall_balanced :
    (Routine.run .expression ⟨memberOfCall, 0, 6⟩ =
        .ok (.member (.call (.identifier "f") [.identifier "x"]) "y", ⟨[], 0, 6⟩) ∧
      ∃ passed further, Cursor.At 6 memberOfCall passed ⟨memberOfCall, 0, 6⟩ ∧
        Cursor.At 6 memberOfCall further ⟨[], 0, 6⟩ ∧ passed + 1 ≤ further) ∧
    whole 64 negations = .error (.tooDeep 64) ∧
    ∃ depth routine cursor place ahead, Reached 64 negations depth routine cursor ∧ depth ≤ 780 ∧
      (routine.plan cursor).Does (.enter place) ∧ place.deeper.nesting = 65 ∧
      place.At 64 negations ahead ∧ negations[ahead]?.elim 64 Located.start = 64 := by
  have read : Routine.run .expression ⟨memberOfCall, 0, 6⟩ =
      .ok (.member (.call (.identifier "f") [.identifier "x"]) "y", ⟨[], 0, 6⟩) := by cbv
  have deep : whole 64 negations = .error (.tooDeep 64) := by cbv
  obtain ⟨_, _, passed, stands, returns, _⟩ := (nesting_balanced 6 memberOfCall).2.1 _ _ _ .start
  obtain ⟨_, further, ended, more⟩ := returns _ _ read
  obtain ⟨depth, routine, cursor, place, reached, does, beyond, _⟩ :=
    (nesting_balanced 64 negations).2.2 64 deep
  obtain ⟨calls, _, _, _, _, _, enters⟩ := (nesting_balanced 64 negations).2.1 _ _ _ reached
  obtain ⟨_, ahead, place_stands, stops⟩ := enters place does
  have here := SyntaxError.tooDeep.inj (Except.error.inj ((stops beyond).symm.trans deep))
  exact ⟨⟨read, passed, further, stands, ended, more⟩, deep, depth, routine, cursor, place, ahead,
    reached, calls, does, beyond, place_stands, here⟩

end Parser

end MarkupTree
