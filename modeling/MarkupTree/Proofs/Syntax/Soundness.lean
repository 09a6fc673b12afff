import MarkupTree.Proofs.Syntax.Outcome

/-!
What the parser reads is derived by the grammar, one step of the parser after the other: each has its
outcome if all steps have theirs where fewer tokens are left.
-/

namespace MarkupTree

namespace Parser

open Cursor (Spans)

structure Outcomes (size : Nat) : Prop where
  expression : ∀ cursor, cursor.rest.length < size →
    Outcome .expression [] cursor.nesting (cursor.nesting + 1 + 2 * cursor.rest.length) cursor
      (landed (expression cursor))
  binary : ∀ level cursor, cursor.rest.length < size → cursor.nesting ≤ nestingLimit →
    Outcome (.operation level) [] cursor.nesting (cursor.nesting + 2 * cursor.rest.length) cursor
      (landed (binary level cursor))
  chain : ∀ {level left before} (first : Derivation (.operation (level + 1)) before left) nesting
    cursor, cursor.rest.length < size → cursor.nesting = nesting + first.spine →
    nesting + first.nesting ≤ nestingLimit →
    Outcome (.operation (level + 1)) before nesting (cursor.nesting + 2 * cursor.rest.length) cursor
      (landed (chain level left first.spine cursor))
  unary : ∀ cursor, cursor.rest.length < size → cursor.nesting ≤ nestingLimit →
    Outcome (.operation 0) [] cursor.nesting (cursor.nesting + 2 * cursor.rest.length) cursor
      (landed (unary cursor))
  suffixes : ∀ {object before} (first : Derivation .operand before object) nesting cursor,
    cursor.rest.length < size → cursor.nesting = nesting + first.spine →
    nesting + first.nesting ≤ nestingLimit →
    Outcome .operand before nesting (cursor.nesting + 2 * cursor.rest.length) cursor
      (landed (suffixes object first.spine cursor))
  listed : ∀ close cursor, cursor.rest.length < size → cursor.nesting ≤ nestingLimit →
    Outcome (.items close) [] cursor.nesting (cursor.nesting + 1 + 2 * cursor.rest.length) cursor
      (landed (listed close cursor))

theorem Outcomes.mono {a b : Nat} (outcomes : Outcomes a) (le : b ≤ a) : Outcomes b where
  expression cursor less := outcomes.expression cursor (Nat.lt_of_lt_of_le less le)
  binary level cursor less := outcomes.binary level cursor (Nat.lt_of_lt_of_le less le)
  chain first nesting cursor less := outcomes.chain first nesting cursor (Nat.lt_of_lt_of_le less le)
  unary cursor less := outcomes.unary cursor (Nat.lt_of_lt_of_le less le)
  suffixes first nesting cursor less :=
    outcomes.suffixes first nesting cursor (Nat.lt_of_lt_of_le less le)
  listed close cursor less := outcomes.listed close cursor (Nat.lt_of_lt_of_le less le)

section

variable {cursor : Cursor} (below : Outcomes cursor.rest.length)
  (room : cursor.nesting ≤ nestingLimit)

include below room

theorem primary_outcome :
    Outcome .primary [] cursor.nesting (cursor.nesting + 2 * cursor.rest.length) cursor
      (landed (primary cursor)) := by
  cases next : cursor.takeIf openingOf with
  | none =>
      rw [primary_stop next]
      exact .unexpected cursor _
  | some taken =>
      obtain ⟨⟨opening, taken⟩, moved⟩ := taken
      obtain ⟨token, opens, spans, level⟩ := Cursor.of_takeIf_eq_some next
      have length : cursor.rest.length = 1 + taken.rest.length := spans.length
      cases opening with
      | whole expr =>
          rw [primary_whole next]
          obtain ⟨derivation, flat⟩ := derivation_of_whole opens
          exact .reads spans rfl derivation (by omega) level
      | badNumber digits =>
          rw [primary_badNumber next]
          exact .fails trivial
      | parenthesis =>
          rw [primary_parenthesis next]
          obtain rfl := of_openingOf_eq_parenthesis opens
          refine (below.expression taken (by omega)).andThen ?_ (by omega)
          intro expr closing ts derivation inside fits balanced
          refine .expect ?_
          intro after closed closed_level
          refine .reads (spans.append (inside.append closed)) rfl (.parenthesis derivation) ?_
            (by omega)
          rw [Derivation.nesting]
          omega
      | bracket =>
          rw [primary_bracket next]
          obtain rfl := of_openingOf_eq_bracket opens
          refine (below.listed .closeBracket taken (by omega) (by omega)).andThen ?_ (by omega)
          intro items after ts derivation inside fits balanced
          refine .reads (spans.append inside) rfl (.array derivation) ?_ (by omega)
          rw [Derivation.nesting]
          omega

theorem operand_outcome :
    Outcome .operand [] cursor.nesting (cursor.nesting + 2 * cursor.rest.length) cursor
      (landed (operand cursor)) := by
  rw [operand_step]
  refine (primary_outcome below room).andThen ?_ (Nat.le_refl _)
  intro object after ts derivation spans fits balanced
  have some := derivation.length_pos
  have length := spans.length
  have first := below.suffixes (.primary derivation) cursor.nesting after (by omega) balanced
    fits
  exact first.behind spans (by omega)

theorem unary_outcome :
    Outcome (.operation 0) [] cursor.nesting (cursor.nesting + 2 * cursor.rest.length) cursor
      (landed (unary cursor)) := by
  cases next : cursor.takeIf unaryOf with
  | none =>
      rw [unary_stop next, ← bind_pure (landed (operand cursor))]
      refine (operand_outcome below room).andThen ?_ (Nat.le_refl _)
      intro expr after ts derivation spans fits balanced
      exact .reads spans rfl (.unprefixed derivation) fits balanced
  | some taken =>
      obtain ⟨⟨operator, taken⟩, moved⟩ := taken
      obtain ⟨token, passes, spans, level⟩ := Cursor.of_takeIf_eq_some next
      obtain ⟨mark, rfl, spelled⟩ := of_unaryOf_eq_some passes
      have length : cursor.rest.length = 1 + taken.rest.length := spans.length
      have opened : taken.deeper.nesting = taken.nesting + 1 := rfl
      have left : taken.deeper.rest.length = taken.rest.length := rfl
      rw [unary_step next]
      refine .guarded ?_ (by omega)
      intro deeper
      refine (below.unary taken.deeper (by omega) deeper).andThen ?_ (by omega)
      intro expr after ts derivation inside fits balanced
      refine .reads (spans.append inside) rfl (.unary spelled derivation) ?_ ?_
      · rw [Derivation.nesting]
        omega
      · simp only [Cursor.leave]
        omega

theorem binary_outcome (level : Nat) :
    Outcome (.operation level) [] cursor.nesting (cursor.nesting + 2 * cursor.rest.length) cursor
      (landed (binary level cursor)) := by
  induction level with
  | zero =>
      rw [binary_zero]
      exact unary_outcome below room
  | succ level ih =>
      rw [binary_succ]
      refine ih.andThen ?_ (Nat.le_refl _)
      intro left after ts derivation spans fits balanced
      have some := derivation.length_pos
      have length := spans.length
      have first := below.chain (.tighter derivation) cursor.nesting after (by omega) balanced
        fits
      exact first.behind spans (by omega)

omit room in
theorem expression_outcome :
    Outcome .expression [] cursor.nesting (cursor.nesting + 1 + 2 * cursor.rest.length) cursor
      (landed (expression cursor)) := by
  rw [expression_step]
  refine .guarded ?_ (by omega)
  intro (deeper : cursor.deeper.nesting ≤ nestingLimit)
  have opened : cursor.deeper.nesting = cursor.nesting + 1 := rfl
  have left : cursor.deeper.rest.length = cursor.rest.length := rfl
  rw [conditional_step, bind_assoc]
  have below : Outcomes cursor.deeper.rest.length := below
  refine (binary_outcome below deeper loosest).andThen ?_ (by omega)
  intro test tested ts asked spans fits balanced
  have some := asked.length_pos
  have length := spans.length
  dsimp only
  cases question : tested.take .question with
  | none =>
      refine .reads spans rfl (.operation asked) ?_ ?_
      · rw [Derivation.nesting]
        omega
      · simp only [Cursor.leave]
        omega
  | some taken =>
      obtain ⟨⟨nothing, marked⟩, moved⟩ := taken
      obtain ⟨mark, marked_level⟩ := Cursor.of_take_eq_some question
      have mark_length : tested.rest.length = 1 + marked.rest.length := mark.length
      dsimp only
      rw [bind_assoc]
      refine (below.expression marked (by omega)).andThen ?_ (by omega)
      intro consequent parted us chosen inside chosen_fits chosen_level
      have inside_length := inside.length
      dsimp only
      rw [bind_assoc]
      refine .expect ?_
      intro other colon other_level
      have colon_length : parted.rest.length = 1 + other.rest.length := colon.length
      rw [bind_assoc]
      refine (below.expression other (by omega)).andThen ?_ (by omega)
      intro alternative after vs refused behind refused_fits refused_level
      refine .reads (spans.append (mark.append (inside.append (colon.append behind)))) rfl
        (.conditional asked chosen refused) ?_ ?_
      · rw [Derivation.nesting]
        omega
      · simp only [Cursor.leave]
        omega

theorem listed_outcome (close : Symbol) :
    Outcome (.items close) [] cursor.nesting (cursor.nesting + 1 + 2 * cursor.rest.length) cursor
      (landed (listed close cursor)) := by
  cases ends : cursor.take close with
  | some taken =>
      obtain ⟨⟨nothing, after⟩, moved⟩ := taken
      obtain ⟨spans, level⟩ := Cursor.of_take_eq_some ends
      rw [listed_close ends]
      exact .reads spans rfl .none room level
  | none =>
      rw [listed_step ends]
      split
      · exact .fails trivial
      refine (expression_outcome below).andThen ?_ (Nat.le_refl _)
      intro item parted ts only spans fits balanced
      have some := only.length_pos
      have length := spans.length
      dsimp only
      cases comma : parted.take .comma with
      | none =>
          refine .expect ?_
          intro after closing level
          exact .reads (spans.append closing) rfl (.last only) fits (level.trans balanced)
      | some taken =>
          obtain ⟨⟨nothing, next⟩, moved⟩ := taken
          obtain ⟨mark, mark_level⟩ := Cursor.of_take_eq_some comma
          have mark_length : parted.rest.length = 1 + next.rest.length := mark.length
          refine (below.listed close next (by omega) (by omega)).andThen ?_ (by omega)
          intro items after us others behind others_fits others_level
          refine .reads (spans.append (mark.append behind)) rfl (.comma only others) ?_
            (others_level.trans (mark_level.trans balanced))
          rw [Derivation.nesting]
          omega

end

section

variable {cursor : Cursor} (below : Outcomes cursor.rest.length) {before : List Token}
  {nesting : Nat}

include below

theorem chain_outcome {level : Nat} {left : Expr}
    (first : Derivation (.operation (level + 1)) before left)
    (opened : cursor.nesting = nesting + first.spine)
    (fits : nesting + first.nesting ≤ nestingLimit) :
    Outcome (.operation (level + 1)) before nesting (cursor.nesting + 2 * cursor.rest.length) cursor
      (landed (chain level left first.spine cursor)) := by
  cases next : cursor.takeIf (binaryOf (level + 1)) with
  | none =>
      rw [chain_stop left first.spine next]
      refine .reads (.nil cursor) (List.append_nil before) first fits ?_
      simp only [Cursor.leave]
      omega
  | some taken =>
      obtain ⟨⟨operator, taken⟩, moved⟩ := taken
      obtain ⟨token, passes, spans, taken_level⟩ := Cursor.of_takeIf_eq_some next
      obtain ⟨mark, rfl, spelled, binds⟩ := of_binaryOf_eq_some passes
      have length : cursor.rest.length = 1 + taken.rest.length := spans.length
      have deeper_level : taken.deeper.nesting = taken.nesting + 1 := rfl
      have left : taken.deeper.rest.length = taken.rest.length := rfl
      rw [chain_step _ first.spine next]
      refine .guarded ?_ (by omega)
      intro deeper
      refine (below.binary level taken.deeper (by omega) deeper).andThen ?_ (by omega)
      intro right after ts second inside second_fits second_level
      have inside_length := inside.length
      have longer := below.chain (.binary spelled binds first second) nesting after (by omega)
        (by rw [Derivation.spine]; omega) (by rw [Derivation.nesting]; omega)
      exact longer.behind (spans.append inside) (by omega)

theorem suffixes_outcome {object : Expr} (first : Derivation .operand before object)
    (opened : cursor.nesting = nesting + first.spine)
    (fits : nesting + first.nesting ≤ nestingLimit) :
    Outcome .operand before nesting (cursor.nesting + 2 * cursor.rest.length) cursor
      (landed (suffixes object first.spine cursor)) := by
  cases next : cursor.takeIf suffixOf with
  | none =>
      rw [suffixes_stop object first.spine next]
      refine .reads (.nil cursor) (List.append_nil before) first fits ?_
      simp only [Cursor.leave]
      omega
  | some taken =>
      obtain ⟨⟨suffix, taken⟩, moved⟩ := taken
      obtain ⟨token, passes, spans, taken_level⟩ := Cursor.of_takeIf_eq_some next
      obtain rfl := suffixOf_eq_some_iff.mp passes
      have length : cursor.rest.length = 1 + taken.rest.length := spans.length
      have deeper_level : taken.deeper.nesting = taken.nesting + 1 := rfl
      have left : taken.deeper.rest.length = taken.rest.length := rfl
      cases suffix with
      | member =>
          rw [suffixes_member object first.spine next]
          refine .guarded ?_ (by omega)
          intro deeper
          refine .property ?_
          intro name after token named inside level
          have inside_length : taken.rest.length = 1 + after.rest.length := inside.length
          have longer := below.suffixes (.member first named) nesting after (by omega)
            (by rw [Derivation.spine]; omega) (by rw [Derivation.nesting]; omega)
          exact longer.behind (spans.append inside) (by omega)
      | index =>
          rw [suffixes_index object first.spine next]
          refine .guarded ?_ (by omega)
          intro deeper
          refine (below.expression taken.deeper (by omega)).andThen ?_ (by omega)
          intro key closing ts inner inside inner_fits inner_level
          refine .expect ?_
          intro after closed level
          have inside_length := inside.length
          have closed_length : closing.rest.length = 1 + after.rest.length := closed.length
          have longer := below.suffixes (.index first inner) nesting after (by omega)
            (by rw [Derivation.spine]; omega) (by rw [Derivation.nesting]; omega)
          exact longer.behind (spans.append (inside.append closed)) (by omega)
      | call =>
          rw [suffixes_call object first.spine next]
          refine .guarded ?_ (by omega)
          intro deeper
          refine (below.listed .closeParen taken.deeper (by omega) (by omega)).andThen ?_ (by omega)
          intro arguments after ts inner inside inner_fits inner_level
          have inside_length := inside.length
          have longer := below.suffixes (.call first inner) nesting after (by omega)
            (by rw [Derivation.spine]; omega) (by rw [Derivation.nesting]; omega)
          exact longer.behind (spans.append inside) (by omega)

end

theorem outcomes (size : Nat) : Outcomes size := by
  induction size with
  | zero => constructor <;> intros <;> omega
  | succ size ih =>
      have below {cursor : Cursor} (less : cursor.rest.length < size + 1) :
          Outcomes cursor.rest.length :=
        ih.mono (Nat.le_of_lt_succ less)
      exact
        { expression := fun cursor less => expression_outcome (below less)
          binary := fun level cursor less room => binary_outcome (below less) room level
          chain := fun first nesting cursor less opened fits =>
            chain_outcome (below less) first opened fits
          unary := fun cursor less room => unary_outcome (below less) room
          suffixes := fun first nesting cursor less opened fits =>
            suffixes_outcome (below less) first opened fits
          listed := fun close cursor less room => listed_outcome (below less) room close }

theorem whole_of_expression {finish : Nat} {tokens : List Located} {expr : Expr} {after : Cursor}
    (read : landed (expression ⟨tokens, 0, finish⟩) = .ok (expr, after)) :
    whole finish tokens =
      match after.rest with
      | [] => .ok expr
      | _ :: _ => after.unexpected .endOfExpression := by
  rw [whole_step, read]
  rfl

/-- All tokens are read, and derive an expression within the nesting limit; or reading them fails. -/
theorem whole_outcome (finish : Nat) (tokens : List Located) :
    (∃ expr, whole finish tokens = .ok expr ∧
      ∃ derivation : Derivation .expression (tokens.map Located.token) expr,
        derivation.nesting ≤ nestingLimit) ∨
    ∃ cause, whole finish tokens = .error cause ∧ Fails (1 + 2 * tokens.length) cause := by
  have first := (outcomes _).expression ⟨tokens, 0, finish⟩ (Nat.lt_succ_self _)
  obtain ⟨result, same⟩ : ∃ result : Except SyntaxError (Phrase.expression.Tree × Cursor),
      landed (expression ⟨tokens, 0, finish⟩) = result := ⟨_, rfl⟩
  rw [same] at first
  cases first with
  | @reads expr after ts _ spans behind derivation fits balanced =>
      obtain ⟨⟨front, rest, read⟩, _⟩ := spans
      cases ended : after.rest with
      | nil =>
          rw [ended, List.append_nil] at rest
          subst rest read behind
          exact .inl ⟨expr, by rw [whole_of_expression same, ended], derivation, by simpa using fits⟩
      | cons next others =>
          obtain ⟨cause, failed, fails⟩ := unexpected_eq_error after .endOfExpression
          exact .inr ⟨cause, by rw [whole_of_expression same, ended]; exact failed, fails _⟩
  | @fails cause fails => exact .inr ⟨cause, by rw [whole_step, same]; rfl, by simpa using fails⟩

end Parser

end MarkupTree
