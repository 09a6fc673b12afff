import MarkupTree.Proofs.Syntax.Outcome
import MarkupTree.Proofs.Syntax.Routines

/-!
The levels of nesting that a routine of the parser opens are all given back, and no more than these.
One lemma for each routine follows its plan: what its acts are given and where it ends, if the routines
that it goes over to end as they should. These have fewer tokens left, or a lower rank.
-/

namespace MarkupTree

namespace Cursor

/-- A place so many tokens further on, at least, in the same source. Its level of nesting is told by
the levels that were closed and opened in between. -/
structure Lands (cursor : Cursor) (tokens closed opened : Nat) (place : Cursor) : Prop where
  rest : place.rest <:+ cursor.rest
  finish : place.finish = cursor.finish
  moved : place.rest.length + tokens ≤ cursor.rest.length
  level : place.nesting + closed = cursor.nesting + opened

namespace Lands

variable {cursor middle place : Cursor} {a b closed closing opened opening : Nat}

theorem refl (cursor : Cursor) : cursor.Lands 0 0 0 cursor :=
  ⟨List.suffix_rfl, rfl, Nat.le_refl _, rfl⟩

theorem deeper (cursor : Cursor) : cursor.Lands 0 0 1 cursor.deeper :=
  ⟨List.suffix_rfl, rfl, Nat.le_refl _, rfl⟩

theorem leave {levels : Nat} (given : levels ≤ cursor.nesting) :
    cursor.Lands 0 levels 0 (cursor.leave levels) :=
  ⟨List.suffix_rfl, rfl, Nat.le_refl _, Nat.sub_add_cancel given⟩

theorem trans (first : cursor.Lands a closed opened middle)
    (second : middle.Lands b closing opening place) :
    cursor.Lands (a + b) (closed + closing) (opened + opening) place := by
  have moved := first.moved
  have moved' := second.moved
  have level := first.level
  have level' := second.level
  exact ⟨second.rest.trans first.rest, second.finish.trans first.finish, by omega, by omega⟩

theorem weaken (lands : cursor.Lands a closed opened place) (le : b ≤ a)
    (same : closing + opened = closed + opening) : cursor.Lands b closing opening place := by
  have moved := lands.moved
  have level := lands.level
  exact ⟨lands.rest, lands.finish, by omega, by omega⟩

end Lands

theorem Spans.lands {cursor after : Cursor} {token : Token} (spans : Spans cursor [token] after)
    (level : after.nesting = cursor.nesting) : cursor.Lands 1 0 0 after := by
  have length : cursor.rest.length = 1 + after.rest.length := spans.length
  obtain ⟨⟨front, rest, _⟩, finish⟩ := spans
  exact ⟨⟨front, rest.symm⟩, finish, by omega, level⟩

theorem lands_of_takeIf {α : Type} {cursor after : Cursor} {test : Token → Option α} {found : α}
    {moved : after.rest.length < cursor.rest.length}
    (next : cursor.takeIf test = some ⟨(found, after), moved⟩) : cursor.Lands 1 0 0 after := by
  obtain ⟨token, _, spans, level⟩ := of_takeIf_eq_some next
  exact spans.lands level

end Cursor

namespace Parser

def ReadsOne {α : Type} (cursor : Cursor) : Except SyntaxError (α × Cursor) → Prop
  | .ok (_, after) => cursor.Lands 1 0 0 after
  | .error cause => ∀ place, cause ≠ .tooDeep place

theorem unexpected_ne_tooDeep (α : Type) (cursor : Cursor) (expected : Expectation) :
    ∃ cause, cursor.unexpected expected = (.error cause : Except SyntaxError α) ∧
      ∀ place, cause ≠ .tooDeep place := by
  obtain ⟨cause, failed, fails⟩ := unexpected_eq_error cursor expected
  refine ⟨cause, failed, ?_⟩
  rintro place rfl
  exact Nat.not_lt_zero _ (fails 0)

theorem readsOne_unexpected {α : Type} (cursor : Cursor) (expected : Expectation) :
    ReadsOne cursor (cursor.unexpected expected : Except SyntaxError (α × Cursor)) := by
  obtain ⟨cause, failed, other⟩ := unexpected_ne_tooDeep (α × Cursor) cursor expected
  rw [failed]
  exact other

theorem readsOne_required {α : Type} (test : Token → Option α) (expected : Expectation)
    (cursor : Cursor) : ReadsOne cursor (required test expected cursor) := by
  cases next : cursor.takeIf test with
  | none =>
      rw [required_stop expected next]
      exact readsOne_unexpected cursor expected
  | some taken =>
      rw [required_take expected next]
      exact Cursor.lands_of_takeIf next

theorem readsOne_expect (cursor : Cursor) (mark : Symbol) :
    ReadsOne cursor (landed (cursor.expect mark)) := by
  rw [landed_expect]
  exact readsOne_required _ _ cursor

theorem readsOne_property (cursor : Cursor) : ReadsOne cursor (landed (property cursor)) := by
  rw [landed_property]
  exact readsOne_required _ _ cursor

namespace Routine

def opened : Routine → Nat
  | .chain _ _ opened | .suffixes _ opened => opened
  | _ => 0

@[simp] def least : Routine → Nat
  | .chain .. | .suffixes .. => 0
  | _ => 1

def level : Routine → Nat
  | .binary level => level
  | .chain tighter .. => tighter + 1
  | _ => 0

@[simp] def rank : Routine → Nat
  | .listed _ => 13
  | .expression => 12
  | .conditional => 11
  | .binary level => level + 4
  | .unary => 3
  | .operand => 2
  | .suffixes .. | .primary => 1
  | .chain .. => 0

@[simp] def stage : Routine → Nat
  | .conditional => 0
  | .binary level => loosest + 1 - level
  | .chain tighter .. => loosest - tighter
  | .unary => 7
  | .operand | .suffixes .. => 8
  | .primary => 9
  | .listed _ => 10
  | .expression => 11

theorem stage_le (routine : Routine) : routine.stage ≤ 11 := by
  cases routine <;> simp [loosest] <;> omega

def calls (routine : Routine) (cursor : Cursor) : Nat := 12 * cursor.nesting + routine.stage

structure Fits (routine : Routine) (cursor : Cursor) : Prop where
  room : cursor.nesting ≤ nestingLimit
  level : routine.level ≤ loosest
  opened : routine.opened ≤ cursor.nesting

abbrev Returns (routine : Routine) (cursor after : Cursor) : Prop :=
  cursor.Lands routine.least routine.opened 0 after

def Below (inner : Routine) (place : Cursor) (routine : Routine) (cursor : Cursor) : Prop :=
  place.rest.length < cursor.rest.length ∨
    place.rest.length = cursor.rest.length ∧ inner.rank < routine.rank

theorem Below.of_lands {routine inner : Routine} {cursor place : Cursor}
    {tokens closed opened : Nat} (lands : cursor.Lands (tokens + 1) closed opened place) :
    inner.Below place routine cursor := by
  have moved := lands.moved
  exact .inl (by omega)

structure Hands (more : Nat) (routine : Routine) (cursor : Cursor) (inner : Routine)
    (place : Cursor) : Prop where
  rest : place.rest <:+ cursor.rest
  finish : place.finish = cursor.finish
  below : inner.Below place routine cursor
  fits : inner.Fits place
  calls : routine.calls cursor + more ≤ inner.calls place

theorem Hands.of_lands {routine inner : Routine} {cursor place : Cursor} {more tokens raised : Nat}
    (fits : routine.Fits cursor) (lands : cursor.Lands tokens 0 raised place)
    (below : inner.Below place routine cursor) (room : cursor.nesting + raised ≤ nestingLimit)
    (level : inner.level ≤ loosest) (opened : inner.opened ≤ routine.opened + raised)
    (stage : routine.stage + more ≤ inner.stage + 12 * raised) :
    routine.Hands more cursor inner place := by
  have given := fits.opened
  have raises : place.nesting = cursor.nesting + raised := lands.level
  refine ⟨lands.rest, lands.finish, below, ⟨by omega, level, by omega⟩, ?_⟩
  simp only [Routine.calls]
  omega

def Proper (routine : Routine) (cursor : Cursor) : Act → Prop
  | .enter place =>
      place.rest <:+ cursor.rest ∧ place.finish = cursor.finish ∧ place.nesting ≤ nestingLimit
  | .leave place levels => levels ≤ place.nesting
  | .call inner place => routine.Hands 1 cursor inner place
  | .turn inner place => routine.Hands 0 cursor inner place

def Ends (routine : Routine) (cursor : Cursor) :
    Except SyntaxError (routine.Tree × Cursor) → Prop
  | .ok (_, after) => routine.Returns cursor after
  | .error cause => ∀ place, cause ≠ .tooDeep place

def Trusts (routine : Routine) (cursor : Cursor) : Prop :=
  ∀ (inner : Routine) (place : Cursor), inner.Below place routine cursor → inner.Fits place →
    ∀ tree after, inner.run place = .ok (tree, after) → inner.Returns place after

end Routine

namespace Plan

abbrev Keeps (routine : Routine) (cursor : Cursor) (plan : Plan (routine.Tree × Cursor)) : Prop :=
  plan.Yields (routine.Proper cursor) (routine.Ends cursor)

namespace Keeps

variable {routine inner : Routine} {cursor place : Cursor}

theorem enter {tokens : Nat} {next : Cursor → Plan (routine.Tree × Cursor)}
    (lands : cursor.Lands tokens 0 0 place) (room : cursor.nesting ≤ nestingLimit)
    (further : cursor.nesting + 1 ≤ nestingLimit → Keeps routine cursor (next place.deeper)) :
    Keeps routine cursor (.step (.enter place) next) := by
  have level : place.nesting = cursor.nesting := lands.level
  refine ⟨⟨lands.rest, lands.finish, by omega⟩, ?_⟩
  intro inside opens
  rw [Act.perform, guarded] at opens
  split at opens
  · cases opens
  · cases opens
    exact further (by omega)

theorem leave {levels : Nat} {next : Cursor → Plan (routine.Tree × Cursor)}
    (given : levels ≤ place.nesting)
    (further : place.Lands 0 levels 0 (place.leave levels) →
      Keeps routine cursor (next (place.leave levels))) :
    Keeps routine cursor (.step (.leave place levels) next) := by
  refine ⟨given, ?_⟩
  intro ended leaves
  cases leaves
  exact further (.leave given)

theorem andThen {β : Type} {result : Except SyntaxError (β × Cursor)}
    {next : β × Cursor → Plan (routine.Tree × Cursor)} (reads : ReadsOne place result)
    (further : ∀ found after, place.Lands 1 0 0 after → Keeps routine cursor (next (found, after))) :
    Keeps routine cursor (.andThen result next) := by
  cases result with
  | error cause => exact reads
  | ok found => exact further found.1 found.2 reads

variable {next : inner.Tree × Cursor → Plan (routine.Tree × Cursor)}

theorem call (trusts : routine.Trusts cursor) (hands : routine.Hands 1 cursor inner place)
    (further : ∀ tree after, inner.Returns place after → Keeps routine cursor (next (tree, after))) :
    Keeps routine cursor (.step (.call inner place) next) :=
  ⟨hands, fun (tree, after) returns =>
    further tree after (trusts inner place hands.below hands.fits tree after returns)⟩

theorem turn (trusts : routine.Trusts cursor) (hands : routine.Hands 0 cursor inner place)
    (further : ∀ tree after, inner.Returns place after → Keeps routine cursor (next (tree, after))) :
    Keeps routine cursor (.step (.turn inner place) next) :=
  ⟨hands, fun (tree, after) returns =>
    further tree after (trusts inner place hands.below hands.fits tree after returns)⟩

end Keeps

end Plan

namespace Routine

open Cursor (Lands)
open Plan (Keeps)

variable {cursor : Cursor}

theorem keeps_expression (fits : Fits .expression cursor) (trusts : Trusts .expression cursor) :
    Keeps .expression cursor (plan .expression cursor) := by
  apply Keeps.enter (.refl cursor) fits.room
  intro room
  have hands : Hands 1 .expression cursor .conditional cursor.deeper :=
    .of_lands fits (.deeper cursor) (.inr ⟨rfl, by decide⟩) room (by decide) (by decide) (by decide)
  apply Keeps.call trusts hands
  intro expr after returns
  have inside : cursor.Lands 1 0 1 after := (Lands.deeper cursor).trans returns
  have level : after.nesting = cursor.nesting + 1 := inside.level
  apply Keeps.leave (by omega)
  intro leaves
  exact (inside.trans leaves).weaken (Nat.le_refl _) rfl

theorem keeps_conditional (fits : Fits .conditional cursor) (trusts : Trusts .conditional cursor) :
    Keeps .conditional cursor (plan .conditional cursor) := by
  have first : Hands 1 .conditional cursor (.binary loosest) cursor :=
    .of_lands fits (.refl cursor) (.inr ⟨rfl, by decide⟩) fits.room (by decide) (by decide) (by decide)
  apply Keeps.call trusts first
  intro test tested (returns : cursor.Lands 1 0 0 tested)
  dsimp only
  cases question : tested.take .question with
  | none => exact returns
  | some taken =>
      obtain ⟨⟨nothing, asked⟩, asking⟩ := taken
      have mark : cursor.Lands 2 0 0 asked := returns.trans (Cursor.lands_of_takeIf question)
      have second : Hands 1 .conditional cursor .expression asked :=
        .of_lands fits mark (.of_lands mark) fits.room (by decide) (by decide) (by decide)
      apply Keeps.call trusts second
      intro consequent chosen chosen_returns
      apply Keeps.andThen (readsOne_expect chosen .colon)
      intro found parted colon
      have behind : cursor.Lands 4 0 0 parted := (mark.trans chosen_returns).trans colon
      have third : Hands 1 .conditional cursor .expression parted :=
        .of_lands fits behind (.of_lands behind) fits.room (by decide) (by decide) (by decide)
      apply Keeps.call trusts third
      intro alternative after after_returns
      exact (behind.trans after_returns).weaken (by decide) rfl

theorem keeps_binary {level : Nat} (fits : Fits (.binary level) cursor)
    (trusts : Trusts (.binary level) cursor) :
    Keeps (.binary level) cursor (plan (.binary level) cursor) := by
  cases level with
  | zero =>
      have hands : Hands 0 (.binary 0) cursor .unary cursor :=
        .of_lands fits (.refl cursor) (.inr ⟨rfl, by decide⟩) fits.room (by decide) (by decide)
          (by decide)
      exact .turn trusts hands fun expr after (returns : cursor.Lands 1 0 0 after) => returns
  | succ tighter =>
      have top : tighter + 1 ≤ loosest := fits.level
      have first : Hands 1 (.binary (tighter + 1)) cursor (.binary tighter) cursor :=
        .of_lands fits (.refl cursor) (.inr ⟨rfl, Nat.lt_succ_self _⟩) fits.room
          (Nat.le_of_succ_le top) (Nat.zero_le _) (by simp only [stage]; omega)
      apply Keeps.call trusts first
      intro left after (returns : cursor.Lands 1 0 0 after)
      have second : Hands 0 (.binary (tighter + 1)) cursor (.chain tighter left 0) after :=
        .of_lands fits returns (.of_lands returns) fits.room top (Nat.zero_le _)
          (by simp only [stage]; omega)
      apply Keeps.turn trusts second
      intro expr ended ended_returns
      exact (returns.trans ended_returns).weaken (Nat.le_refl _) rfl

theorem keeps_chain {tighter opened : Nat} {left : Expr}
    (fits : Fits (.chain tighter left opened) cursor)
    (trusts : Trusts (.chain tighter left opened) cursor) :
    Keeps (.chain tighter left opened) cursor (plan (.chain tighter left opened) cursor) := by
  have top : tighter + 1 ≤ loosest := fits.level
  rw [plan]
  cases next : cursor.takeIf (binaryOf (tighter + 1)) with
  | none => exact .leave fits.opened fun leaves => leaves
  | some taken =>
      obtain ⟨⟨operator, taken⟩, taking⟩ := taken
      have mark := Cursor.lands_of_takeIf next
      apply Keeps.enter mark fits.room
      intro room
      have deeper : cursor.Lands 1 0 1 taken.deeper := mark.trans (.deeper taken)
      have first : Hands 1 (.chain tighter left opened) cursor (.binary tighter) taken.deeper :=
        .of_lands fits deeper (.of_lands deeper) room (Nat.le_of_succ_le top) (Nat.zero_le _)
          (by simp only [stage]; omega)
      apply Keeps.call trusts first
      intro right after returns
      have behind : cursor.Lands 2 0 1 after := deeper.trans returns
      have second : Hands 0 (.chain tighter left opened) cursor
          (.chain tighter (.binary operator left right) (opened + 1)) after :=
        .of_lands fits behind (.of_lands behind) room top (Nat.le_refl _) (Nat.le_add_right _ _)
      apply Keeps.turn trusts second
      intro expr ended ended_returns
      exact (behind.trans ended_returns).weaken (Nat.zero_le _) (by simp only [Routine.opened]; omega)

theorem keeps_unary (fits : Fits .unary cursor) (trusts : Trusts .unary cursor) :
    Keeps .unary cursor (plan .unary cursor) := by
  rw [plan]
  cases next : cursor.takeIf unaryOf with
  | none =>
      have hands : Hands 1 .unary cursor .operand cursor :=
        .of_lands fits (.refl cursor) (.inr ⟨rfl, by decide⟩) fits.room (by decide) (by decide)
          (by decide)
      exact .call trusts hands fun expr after (returns : cursor.Lands 1 0 0 after) => returns
  | some taken =>
      obtain ⟨⟨operator, taken⟩, taking⟩ := taken
      have mark := Cursor.lands_of_takeIf next
      apply Keeps.enter mark fits.room
      intro room
      have deeper : cursor.Lands 1 0 1 taken.deeper := mark.trans (.deeper taken)
      have hands : Hands 1 .unary cursor .unary taken.deeper :=
        .of_lands fits deeper (.of_lands deeper) room (by decide) (by decide) (by decide)
      apply Keeps.call trusts hands
      intro expr after returns
      have inside : cursor.Lands 2 0 1 after := deeper.trans returns
      have level : after.nesting = cursor.nesting + 1 := inside.level
      apply Keeps.leave (by omega)
      intro leaves
      exact (inside.trans leaves).weaken (by decide) rfl

theorem keeps_operand (fits : Fits .operand cursor) (trusts : Trusts .operand cursor) :
    Keeps .operand cursor (plan .operand cursor) := by
  have first : Hands 1 .operand cursor .primary cursor :=
    .of_lands fits (.refl cursor) (.inr ⟨rfl, by decide⟩) fits.room (by decide) (by decide) (by decide)
  apply Keeps.call trusts first
  intro expr after (returns : cursor.Lands 1 0 0 after)
  have second : Hands 0 .operand cursor (.suffixes expr 0) after :=
    .of_lands fits returns (.of_lands returns) fits.room (Nat.zero_le _) (Nat.zero_le _) (by simp)
  apply Keeps.turn trusts second
  intro whole ended ended_returns
  exact (returns.trans ended_returns).weaken (Nat.le_refl _) rfl

/-- What is read behind the mark of a suffix, one level further in, is followed by the suffixes that
remain. -/
theorem keeps_suffix {object longer : Expr} {opened tokens : Nat} {after : Cursor}
    (fits : Fits (.suffixes object opened) cursor) (trusts : Trusts (.suffixes object opened) cursor)
    (room : cursor.nesting + 1 ≤ nestingLimit) (behind : cursor.Lands (tokens + 1) 0 1 after) :
    Keeps (.suffixes object opened) cursor (.last (.turn (.suffixes longer (opened + 1)) after)) := by
  have hands : Hands 0 (.suffixes object opened) cursor (.suffixes longer (opened + 1)) after :=
    .of_lands fits behind (.of_lands behind) room (Nat.zero_le _) (Nat.le_refl _) (by simp)
  apply Keeps.turn trusts hands
  intro whole ended returns
  exact (behind.trans returns).weaken (Nat.zero_le _) (by simp only [Routine.opened]; omega)

theorem keeps_suffixes {object : Expr} {opened : Nat} (fits : Fits (.suffixes object opened) cursor)
    (trusts : Trusts (.suffixes object opened) cursor) :
    Keeps (.suffixes object opened) cursor (plan (.suffixes object opened) cursor) := by
  rw [plan]
  cases next : cursor.takeIf suffixOf with
  | none => exact .leave fits.opened fun leaves => leaves
  | some taken =>
      obtain ⟨⟨suffix, taken⟩, taking⟩ := taken
      have mark := Cursor.lands_of_takeIf next
      apply Keeps.enter (.refl cursor) fits.room
      intro room
      have deeper : cursor.Lands 1 0 1 taken.deeper := mark.trans (.deeper taken)
      cases suffix with
      | member =>
          apply Keeps.andThen (readsOne_property taken.deeper)
          intro name after named
          exact keeps_suffix fits trusts room (deeper.trans named)
      | index =>
          have hands : Hands 1 (.suffixes object opened) cursor .expression taken.deeper :=
            .of_lands fits deeper (.of_lands deeper) room (Nat.zero_le _) (Nat.zero_le _) (by simp)
          apply Keeps.call trusts hands
          intro key closing returns
          apply Keeps.andThen (readsOne_expect closing .closeBracket)
          intro found after closed
          exact keeps_suffix fits trusts room ((deeper.trans returns).trans closed)
      | call =>
          have hands : Hands 1 (.suffixes object opened) cursor (.listed .closeParen) taken.deeper :=
            .of_lands fits deeper (.of_lands deeper) room (Nat.zero_le _) (Nat.zero_le _) (by simp)
          apply Keeps.call trusts hands
          intro arguments after returns
          exact keeps_suffix fits trusts room (deeper.trans returns)

theorem keeps_primary (fits : Fits .primary cursor) (trusts : Trusts .primary cursor) :
    Keeps .primary cursor (plan .primary cursor) := by
  rw [plan]
  cases next : cursor.takeIf openingOf with
  | none =>
      obtain ⟨cause, failed, other⟩ := unexpected_ne_tooDeep _ cursor .expression
      dsimp only
      rw [failed]
      exact other
  | some taken =>
      obtain ⟨⟨opening, taken⟩, taking⟩ := taken
      have mark : cursor.Lands 1 0 0 taken := Cursor.lands_of_takeIf next
      cases opening with
      | whole expr => exact mark
      | badNumber digits => exact fun place => SyntaxError.noConfusion
      | parenthesis =>
          have hands : Hands 1 .primary cursor .expression taken :=
            .of_lands fits mark (.of_lands mark) fits.room (by decide) (by decide) (by decide)
          apply Keeps.call trusts hands
          intro expr closing returns
          apply Keeps.andThen (readsOne_expect closing .closeParen)
          intro found after closed
          exact ((mark.trans returns).trans closed).weaken (by decide) rfl
      | bracket =>
          have hands : Hands 1 .primary cursor (.listed .closeBracket) taken :=
            .of_lands fits mark (.of_lands mark) fits.room (Nat.zero_le _) (Nat.zero_le _) (by decide)
          apply Keeps.call trusts hands
          intro items after returns
          exact (mark.trans returns).weaken (by decide) rfl

theorem keeps_listed {close : Symbol} (fits : Fits (.listed close) cursor)
    (trusts : Trusts (.listed close) cursor) :
    Keeps (.listed close) cursor (plan (.listed close) cursor) := by
  rw [plan]
  cases ends : cursor.take close with
  | some taken => exact Cursor.lands_of_takeIf ends
  | none =>
      dsimp only
      split
      · exact fun place => SyntaxError.noConfusion
      have first : Hands 1 (.listed close) cursor .expression cursor :=
        .of_lands fits (.refl cursor) (.inr ⟨rfl, by simp⟩) fits.room (Nat.zero_le _)
          (Nat.zero_le _) (by simp)
      apply Keeps.call trusts first
      intro item parted (returns : cursor.Lands 1 0 0 parted)
      dsimp only
      cases comma : parted.take .comma with
      | none =>
          apply Keeps.andThen (readsOne_expect parted close)
          intro found after closed
          exact (returns.trans closed).weaken (by simp) rfl
      | some taken =>
          obtain ⟨⟨nothing, next⟩, parting⟩ := taken
          have mark : cursor.Lands 2 0 0 next := returns.trans (Cursor.lands_of_takeIf comma)
          have second : Hands 0 (.listed close) cursor (.listed close) next :=
            .of_lands fits mark (.of_lands mark) fits.room (Nat.zero_le _) (Nat.zero_le _)
              (Nat.le_refl _)
          apply Keeps.turn trusts second
          intro items after after_returns
          exact (mark.trans after_returns).weaken (by simp) rfl

theorem keeps_plan (routine : Routine) (fits : routine.Fits cursor) (trusts : routine.Trusts cursor) :
    Keeps routine cursor (routine.plan cursor) := by
  cases routine with
  | expression => exact keeps_expression fits trusts
  | conditional => exact keeps_conditional fits trusts
  | binary level => exact keeps_binary fits trusts
  | chain tighter left opened => exact keeps_chain fits trusts
  | unary => exact keeps_unary fits trusts
  | operand => exact keeps_operand fits trusts
  | suffixes object opened => exact keeps_suffixes fits trusts
  | primary => exact keeps_primary fits trusts
  | listed close => exact keeps_listed fits trusts

theorem returns_of_run (routine : Routine) (cursor : Cursor) (fits : routine.Fits cursor)
    {tree : routine.Tree} {after : Cursor} (read : routine.run cursor = .ok (tree, after)) :
    routine.Returns cursor after := by
  -- by induction on the tokens that are left, and on the rank where a routine has read none
  have keeps := keeps_plan routine fits fun inner place below fits tree after read =>
    returns_of_run inner place fits read
  rw [run_eq_plan] at read
  rcases keeps.run_cases with ends | ⟨act, cause, _, _, stops⟩
  · rw [read] at ends
    exact ends
  · rw [read] at stops
    cases stops
termination_by (cursor.rest.length, routine.rank)
decreasing_by exact Prod.lex_def.mpr below

theorem Fits.keeps {routine : Routine} (fits : routine.Fits cursor) :
    Keeps routine cursor (routine.plan cursor) :=
  keeps_plan routine fits fun inner place _ fits _ _ read => returns_of_run inner place fits read

end Routine

end Parser

end MarkupTree
