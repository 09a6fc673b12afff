import MarkupTree.Proofs.Syntax.Height

/-!
Where the parser stops, what it has read can be gone on with: each of its steps fails behind tokens
that are the start of some phrase of its kind, and at the end of the source only if all of them are.
-/

namespace MarkupTree

/-- The tokens are the start of a phrase. -/
def Completable (phrase : Phrase) (ts : List Token) : Prop :=
  ∃ more tree, Nonempty (Derivation phrase (ts ++ more) tree)

namespace Completable

variable {phrase : Phrase} {ts us vs : List Token} {level : Nat} {mark close : Symbol}

theorem of_derivation {tree : phrase.Tree} (derivation : Derivation phrase us tree)
    (more : List Token) (spelled : us = ts ++ more) : Completable phrase ts :=
  ⟨more, tree, ⟨spelled ▸ derivation⟩⟩

theorem whole {tree : phrase.Tree} (derivation : Derivation phrase ts tree) : Completable phrase ts :=
  of_derivation derivation [] (List.append_nil ts).symm

theorem tighter : Completable (.operation level) ts → Completable (.operation (level + 1)) ts
  | ⟨more, _, ⟨derivation⟩⟩ => of_derivation (.tighter derivation) more rfl

theorem operation : Completable (.operation Parser.loosest) ts → Completable .expression ts
  | ⟨more, _, ⟨derivation⟩⟩ => of_derivation (.operation derivation) more rfl

theorem unprefixed : Completable .operand ts → Completable (.operation 0) ts
  | ⟨more, _, ⟨derivation⟩⟩ => of_derivation (.unprefixed derivation) more rfl

theorem primary : Completable .primary ts → Completable .operand ts
  | ⟨more, _, ⟨derivation⟩⟩ => of_derivation (.primary derivation) more rfl

theorem empty : Completable .primary [] := of_derivation (.identifier ['a']) [_] rfl

theorem unary {operator : UnaryOperator} (spelled : UnaryOperator.ofSymbol? mark = some operator) :
    Completable (.operation 0) ts → Completable (.operation 0) ([.symbol mark] ++ ts)
  | ⟨more, _, ⟨derivation⟩⟩ => of_derivation (.unary spelled derivation) more rfl

theorem binary {operator : BinaryOperator} {left : Expr}
    (spelled : BinaryOperator.ofSymbol? mark = some operator) (binds : operator.looseness = level + 1)
    (first : Derivation (.operation (level + 1)) ts left) :
    Completable (.operation level) us →
      Completable (.operation (level + 1)) (ts ++ [.symbol mark] ++ us)
  | ⟨more, _, ⟨derivation⟩⟩ =>
      of_derivation (.binary spelled binds first derivation) more (by simp)

theorem chosen {test : Expr} (asked : Derivation (.operation Parser.loosest) ts test) :
    Completable .expression us → Completable .expression (ts ++ [.symbol .question] ++ us)
  | ⟨more, _, ⟨derivation⟩⟩ =>
      of_derivation (.conditional asked derivation (.operation (.leaf _)))
        (more ++ [.symbol .colon, .identifier ['a']]) (by simp)

theorem refused {test consequent : Expr} (asked : Derivation (.operation Parser.loosest) ts test)
    (chosen : Derivation .expression us consequent) :
    Completable .expression vs →
      Completable .expression (ts ++ [.symbol .question] ++ us ++ [.symbol .colon] ++ vs)
  | ⟨more, _, ⟨derivation⟩⟩ =>
      of_derivation (.conditional asked chosen derivation) more (by simp)

theorem member {object : Expr} (first : Derivation .operand ts object) :
    Completable .operand (ts ++ [.symbol .dot]) := by
  have named : Parser.propertyOf (.identifier ['a']) = some _ := rfl
  exact of_derivation (.member first named) [.identifier ['a']] (by simp)

theorem index {object : Expr} (first : Derivation .operand ts object) :
    Completable .expression us → Completable .operand (ts ++ [.symbol .openBracket] ++ us)
  | ⟨more, _, ⟨derivation⟩⟩ =>
      of_derivation (.index first derivation) (more ++ [.symbol .closeBracket]) (by simp)

theorem call {callee : Expr} (first : Derivation .operand ts callee) :
    Completable (.items .closeParen) us → Completable .operand (ts ++ [.symbol .openParen] ++ us)
  | ⟨more, _, ⟨derivation⟩⟩ => of_derivation (.call first derivation) more (by simp)

theorem parenthesis :
    Completable .expression us → Completable .primary ([.symbol .openParen] ++ us)
  | ⟨more, _, ⟨derivation⟩⟩ =>
      of_derivation (.parenthesis derivation) (more ++ [.symbol .closeParen]) (by simp)

theorem array :
    Completable (.items .closeBracket) us → Completable .primary ([.symbol .openBracket] ++ us)
  | ⟨more, _, ⟨derivation⟩⟩ => of_derivation (.array derivation) more rfl

theorem none : Completable (.items close) [] := of_derivation .none [_] rfl

theorem last : Completable .expression us → Completable (.items close) us
  | ⟨more, _, ⟨derivation⟩⟩ => of_derivation (.last derivation) (more ++ [.symbol close]) (by simp)

theorem comma {item : Expr} (first : Derivation .expression ts item) :
    Completable (.items close) us → Completable (.items close) (ts ++ [.symbol .comma] ++ us)
  | ⟨more, _, ⟨derivation⟩⟩ => of_derivation (.comma first derivation) more (by simp)

end Completable

namespace Parser

open Cursor (Spans)

theorem of_openingOf_eq_badNumber {token : Token} {digits : String}
    (opens : openingOf token = some (.badNumber digits)) :
    ∃ written, token = .number written ∧ Decimal.read? written = none := by
  unfold openingOf at opens
  split at opens
  case h_4 =>
    rename_i written
    split at opens
    · cases opens
    · rename_i unread
      exact ⟨written, rfl, unread⟩
  all_goals cases opens

/-- How a step fails that starts behind the tokens `before` of its phrase: these and the tokens that
it reads are the start of such a phrase. A number is called for only where one cannot be read. -/
inductive Broken (phrase : Phrase) (before : List Token) (start : Cursor) : SyntaxError → Prop
  | token (front : List Located) (next : Located) (rest : List Located) (expected : Expectation)
      (found : String) (split : start.rest = front ++ next :: rest)
      (viable : Completable phrase (before ++ front.map Located.token))
      (number : expected = .number →
        ∃ digits, next.token = .number digits ∧ Decimal.read? digits = none) :
      Broken phrase before start (.unexpectedToken next.start expected found)
  | ended (viable : Completable phrase (before ++ start.rest.map Located.token)) :
      Broken phrase before start (.unexpectedEnd start.finish)
  | deep (place : Nat) : Broken phrase before start (.tooDeep place)

def Breaks {α : Type} (phrase : Phrase) (before : List Token) (start : Cursor)
    (result : Except SyntaxError α) : Prop :=
  ∀ cause, result = .error cause → Broken phrase before start cause

namespace Breaks

variable {α β : Type} {phrase other : Phrase} {before outer ts : List Token} {start middle : Cursor}

theorem ok (x : α) : Breaks phrase before start (.ok x) := by
  intro cause failed
  cases failed

theorem behind {result : Except SyntaxError α} (spans : Spans start ts middle)
    (breaks : Breaks phrase (before ++ ts) middle result) : Breaks phrase before start result := by
  intro cause failed
  obtain ⟨⟨front, split, rfl⟩, finish⟩ := spans
  cases breaks cause failed with
  | token more next rest expected found inner viable number =>
      refine .token (front ++ more) next rest expected found ?_ ?_ number
      · rw [split, inner, List.append_assoc]
      · rw [List.map_append, ← List.append_assoc]
        exact viable
  | ended viable =>
      rw [finish]
      refine .ended ?_
      rw [split, List.map_append, ← List.append_assoc]
      exact viable
  | deep place => exact .deep place

theorem within {result : Except SyntaxError α}
    (lift : ∀ ts, Completable phrase ts → Completable other (outer ++ ts))
    (breaks : Breaks phrase [] start result) : Breaks other outer start result := by
  intro cause failed
  cases breaks cause failed with
  | token front next rest expected found split viable number =>
      exact .token front next rest expected found split (lift _ viable) number
  | ended viable => exact .ended (lift _ viable)
  | deep place => exact .deep place

theorem unexpected {expected : Expectation} (viable : Completable phrase before)
    (other : expected ≠ .number) (start : Cursor) :
    Breaks phrase before start (start.unexpected expected : Except SyntaxError α) := by
  intro cause failed
  obtain ⟨rest, nesting, finish⟩ := start
  have viable : Completable phrase (before ++ []) := by rwa [List.append_nil]
  cases rest with
  | nil =>
      cases failed
      exact .ended viable
  | cons next rest =>
      cases failed
      exact .token [] next rest expected _ rfl viable fun same => absurd same other

theorem deeper {result : Except SyntaxError α} (breaks : Breaks phrase before start.deeper result) :
    Breaks phrase before start result := by
  have spans : Spans start [] start.deeper := ⟨⟨[], rfl, rfl⟩, rfl⟩
  exact .behind spans (by rwa [List.append_nil])

theorem finished (viable : Completable phrase before) (ended : start.rest = []) :
    Breaks phrase before start (.error (.unexpectedEnd start.finish) : Except SyntaxError α) := by
  intro cause failed
  cases failed
  refine .ended ?_
  rw [ended, List.map_nil, List.append_nil]
  exact viable

theorem unreadable {written : List Char} {digits : String}
    (spans : Spans start [.number written] middle) (unread : Decimal.read? written = none) :
    Breaks .primary [] start
      (.error (.unexpectedToken start.position .number digits) : Except SyntaxError α) := by
  intro cause failed
  obtain ⟨⟨front, split, single⟩, _⟩ := spans
  obtain ⟨next, rfl, number⟩ := List.map_eq_singleton_iff.mp single
  have here : start.position = next.start := by
    rw [Cursor.position, split]
    rfl
  cases failed
  rw [here]
  exact .token [] next middle.rest .number digits split .empty fun _ => ⟨written, number, unread⟩

theorem guarded {cursor : Cursor} {result : Except SyntaxError α}
    (inside : cursor.nesting + 1 ≤ nestingLimit → Breaks phrase before start result) :
    Breaks phrase before start (Parser.guarded cursor result) := by
  unfold Parser.guarded
  split
  · intro cause failed
    cases failed
    exact .deep _
  · exact inside (by omega)

theorem bind {result : Except SyntaxError α} {next : α → Except SyntaxError β}
    (first : Breaks phrase before start result)
    (further : ∀ x, result = .ok x → Breaks phrase before start (next x)) :
    Breaks phrase before start (result >>= next) := by
  cases result with
  | ok x => exact further x rfl
  | error cause =>
      intro other failed
      cases failed
      exact first cause rfl

theorem misses {expected : Expectation} {next : α → Except SyntaxError β}
    (viable : Completable phrase before) (other : expected ≠ .number) :
    Breaks phrase before start (start.unexpected expected >>= next) := by
  have own : Breaks phrase before start (start.unexpected expected : Except SyntaxError α) :=
    unexpected viable other start
  refine own.bind fun x read => ?_
  obtain ⟨cause, failed, _⟩ := unexpected_eq_error start expected
  rw [failed] at read
  cases read

theorem andThen {inner levels : Nat} {result : Except SyntaxError (other.Tree × Cursor)}
    {next : other.Tree × Cursor → Except SyntaxError β}
    (lift : ∀ ts, Completable other ts → Completable phrase (before ++ ts))
    (first : Breaks other [] start result) (outcome : Outcome other [] inner levels start result)
    (further : ∀ tree after ts (derivation : Derivation other ts tree), Spans start ts after →
      inner + derivation.nesting ≤ nestingLimit → after.nesting = inner →
      Breaks phrase (before ++ ts) after (next (tree, after))) :
    Breaks phrase before start (result >>= next) := by
  refine (first.within lift).bind ?_
  rintro ⟨tree, after⟩ rfl
  cases outcome with
  | reads spans tokens derivation fits balanced =>
      subst tokens
      exact (further _ _ _ derivation spans fits balanced).behind spans

theorem required {test : Token → Option α} {expected : Expectation}
    {next : α × Cursor → Except SyntaxError β} (viable : Completable phrase before)
    (other : expected ≠ .number)
    (met : ∀ found after token, test token = some found → Spans start [token] after →
      after.nesting = start.nesting → Breaks phrase (before ++ [token]) after (next (found, after))) :
    Breaks phrase before start (Parser.required test expected start >>= next) := by
  cases comes : start.takeIf test with
  | none =>
      rw [required_stop expected comes]
      exact misses viable other
  | some taken =>
      obtain ⟨⟨found, after⟩, moved⟩ := taken
      obtain ⟨token, passes, spans, level⟩ := Cursor.of_takeIf_eq_some comes
      rw [required_take expected comes]
      exact (met found after token passes spans level).behind spans

theorem expect {mark : Symbol} {next : Unit × Cursor → Except SyntaxError β}
    (viable : Completable phrase before)
    (met : ∀ after, Spans start [.symbol mark] after → after.nesting = start.nesting →
      Breaks phrase (before ++ [.symbol mark]) after (next ((), after))) :
    Breaks phrase before start (landed (start.expect mark) >>= next) := by
  rw [landed_expect]
  refine required viable nofun fun _ after token passes spans level => ?_
  obtain rfl := Cursor.of_exactly_eq_some passes
  exact met after spans level

theorem property {next : String × Cursor → Except SyntaxError β} (viable : Completable phrase before)
    (met : ∀ name after token, propertyOf token = some name → Spans start [token] after →
      after.nesting = start.nesting → Breaks phrase (before ++ [token]) after (next (name, after))) :
    Breaks phrase before start (landed (property start) >>= next) := by
  rw [landed_property]
  exact required viable nofun met

end Breaks

structure Breakings (size : Nat) : Prop where
  expression : ∀ cursor, cursor.rest.length < size →
    Breaks .expression [] cursor (landed (expression cursor))
  binary : ∀ level cursor, cursor.rest.length < size → cursor.nesting ≤ nestingLimit →
    Breaks (.operation level) [] cursor (landed (binary level cursor))
  chain : ∀ {level left before} (first : Derivation (.operation (level + 1)) before left) nesting
    cursor, cursor.rest.length < size → cursor.nesting = nesting + first.spine →
    nesting + first.nesting ≤ nestingLimit →
    Breaks (.operation (level + 1)) before cursor (landed (chain level left first.spine cursor))
  unary : ∀ cursor, cursor.rest.length < size → cursor.nesting ≤ nestingLimit →
    Breaks (.operation 0) [] cursor (landed (unary cursor))
  suffixes : ∀ {object before} (first : Derivation .operand before object) nesting cursor,
    cursor.rest.length < size → cursor.nesting = nesting + first.spine →
    nesting + first.nesting ≤ nestingLimit →
    Breaks .operand before cursor (landed (suffixes object first.spine cursor))
  listed : ∀ close cursor, cursor.rest.length < size → cursor.nesting ≤ nestingLimit →
    Breaks (.items close) [] cursor (landed (listed close cursor))

theorem Breakings.mono {a b : Nat} (breakings : Breakings a) (le : b ≤ a) : Breakings b where
  expression cursor less := breakings.expression cursor (Nat.lt_of_lt_of_le less le)
  binary level cursor less := breakings.binary level cursor (Nat.lt_of_lt_of_le less le)
  chain first nesting cursor less :=
    breakings.chain first nesting cursor (Nat.lt_of_lt_of_le less le)
  unary cursor less := breakings.unary cursor (Nat.lt_of_lt_of_le less le)
  suffixes first nesting cursor less :=
    breakings.suffixes first nesting cursor (Nat.lt_of_lt_of_le less le)
  listed close cursor less := breakings.listed close cursor (Nat.lt_of_lt_of_le less le)

section

variable {cursor : Cursor} (below : Breakings cursor.rest.length)
  (room : cursor.nesting ≤ nestingLimit)

include below room

theorem primary_breaks : Breaks .primary [] cursor (landed (primary cursor)) := by
  cases next : cursor.takeIf openingOf with
  | none =>
      rw [primary_stop next]
      exact .unexpected .empty (by simp) cursor
  | some taken =>
      obtain ⟨⟨opening, taken⟩, moved⟩ := taken
      obtain ⟨token, opens, spans, level⟩ := Cursor.of_takeIf_eq_some next
      have length : cursor.rest.length = 1 + taken.rest.length := spans.length
      have inner := outcomes cursor.rest.length
      cases opening with
      | whole expr =>
          rw [primary_whole next]
          exact .ok _
      | badNumber digits =>
          rw [primary_badNumber next]
          obtain ⟨written, rfl, unread⟩ := of_openingOf_eq_badNumber opens
          exact .unreadable spans unread
      | parenthesis =>
          rw [primary_parenthesis next]
          obtain rfl := of_openingOf_eq_parenthesis opens
          refine .behind spans ?_
          refine .andThen (fun _ => .parenthesis) (below.expression taken moved)
            (inner.expression taken moved) ?_
          intro expr closing ts derivation _ _ _
          exact .expect (.parenthesis (.whole derivation)) fun after _ _ => .ok _
      | bracket =>
          rw [primary_bracket next]
          obtain rfl := of_openingOf_eq_bracket opens
          refine .behind spans ?_
          refine .andThen (fun _ => .array) (below.listed .closeBracket taken moved (by omega))
            (inner.listed .closeBracket taken moved (by omega)) ?_
          intro items after ts derivation _ _ _
          exact .ok _

theorem operand_breaks : Breaks .operand [] cursor (landed (operand cursor)) := by
  rw [operand_step]
  refine .andThen (fun _ => .primary) (primary_breaks below room)
    (primary_outcome (outcomes _) room) ?_
  intro object after ts derivation spans fits balanced
  have some := derivation.length_pos
  have length := spans.length
  exact below.suffixes (.primary derivation) cursor.nesting after (by omega) balanced fits

theorem unary_breaks : Breaks (.operation 0) [] cursor (landed (unary cursor)) := by
  cases next : cursor.takeIf unaryOf with
  | none =>
      rw [unary_stop next]
      exact (operand_breaks below room).within fun _ => .unprefixed
  | some taken =>
      obtain ⟨⟨operator, taken⟩, moved⟩ := taken
      obtain ⟨token, passes, spans, level⟩ := Cursor.of_takeIf_eq_some next
      obtain ⟨mark, rfl, spelled⟩ := of_unaryOf_eq_some passes
      rw [unary_step next]
      refine .guarded fun (deeper : taken.deeper.nesting ≤ nestingLimit) => .behind spans (.deeper ?_)
      have own := (below.unary taken.deeper moved deeper).within fun _ => .unary spelled
      exact own.bind fun _ _ => .ok _

theorem binary_breaks (level : Nat) :
    Breaks (.operation level) [] cursor (landed (binary level cursor)) := by
  induction level with
  | zero =>
      rw [binary_zero]
      exact unary_breaks below room
  | succ level ih =>
      rw [binary_succ]
      refine .andThen (fun _ => .tighter) ih (binary_outcome (outcomes _) room level) ?_
      intro left after ts derivation spans fits balanced
      have some := derivation.length_pos
      have length := spans.length
      exact below.chain (.tighter derivation) cursor.nesting after (by omega) balanced fits

omit room in
theorem expression_breaks : Breaks .expression [] cursor (landed (expression cursor)) := by
  rw [expression_step]
  refine .guarded fun (deeper : cursor.deeper.nesting ≤ nestingLimit) => .deeper ?_
  have left : cursor.deeper.rest.length = cursor.rest.length := rfl
  have below : Breakings cursor.deeper.rest.length := below
  have inner := outcomes cursor.rest.length
  refine .bind ?_ fun _ _ => .ok _
  rw [conditional_step]
  refine .andThen (fun _ => .operation) (binary_breaks below deeper loosest)
    (binary_outcome (outcomes _) deeper loosest) ?_
  intro test tested ts asked spans fits balanced
  have some := asked.length_pos
  have length : cursor.rest.length = ts.length + tested.rest.length := spans.length
  dsimp only
  cases question : tested.take .question with
  | none => exact .ok _
  | some taken =>
      obtain ⟨⟨nothing, marked⟩, moved⟩ := taken
      obtain ⟨mark, marked_level⟩ := Cursor.of_take_eq_some question
      have mark_length : tested.rest.length = 1 + marked.rest.length := mark.length
      refine .behind mark ?_
      refine .andThen (fun _ => .chosen asked) (below.expression marked (by omega))
        (inner.expression marked (by omega)) ?_
      intro consequent parted us chosen inside _ _
      have inside_length := inside.length
      refine .expect (.chosen asked (.whole chosen)) fun other colon _ => ?_
      have colon_length : parted.rest.length = 1 + other.rest.length := colon.length
      have last := (below.expression other (by omega)).within fun _ => .refused asked chosen
      exact last.bind fun _ _ => .ok _

theorem listed_breaks (close : Symbol) :
    Breaks (.items close) [] cursor (landed (listed close cursor)) := by
  cases ends : cursor.take close with
  | some taken =>
      obtain ⟨⟨nothing, after⟩, moved⟩ := taken
      rw [listed_close ends]
      exact .ok _
  | none =>
      rw [listed_step ends]
      split
      · rename_i ended
        exact .finished .none (List.isEmpty_iff.mp ended)
      refine .andThen (fun _ => .last) (expression_breaks below) (expression_outcome (outcomes _)) ?_
      intro item parted ts only spans fits balanced
      have some := only.length_pos
      have length := spans.length
      dsimp only
      cases comma : parted.take .comma with
      | none => exact .expect (.last (.whole only)) fun after _ _ => .ok _
      | some taken =>
          obtain ⟨⟨nothing, next⟩, moved⟩ := taken
          obtain ⟨mark, mark_level⟩ := Cursor.of_take_eq_some comma
          have mark_length : parted.rest.length = 1 + next.rest.length := mark.length
          refine .behind mark ?_
          have others := (below.listed close next (by omega) (by omega)).within fun _ => .comma only
          exact others.bind fun _ _ => .ok _

end

section

variable {cursor : Cursor} (below : Breakings cursor.rest.length) {before : List Token}
  {nesting : Nat}

include below

theorem chain_breaks {level : Nat} {left : Expr}
    (first : Derivation (.operation (level + 1)) before left)
    (opened : cursor.nesting = nesting + first.spine)
    (fits : nesting + first.nesting ≤ nestingLimit) :
    Breaks (.operation (level + 1)) before cursor (landed (chain level left first.spine cursor)) := by
  cases next : cursor.takeIf (binaryOf (level + 1)) with
  | none =>
      rw [chain_stop left first.spine next]
      exact .ok _
  | some taken =>
      obtain ⟨⟨operator, taken⟩, moved⟩ := taken
      obtain ⟨token, passes, spans, taken_level⟩ := Cursor.of_takeIf_eq_some next
      obtain ⟨mark, rfl, spelled, binds⟩ := of_binaryOf_eq_some passes
      have length : cursor.rest.length = 1 + taken.rest.length := spans.length
      have deeper_level : taken.deeper.nesting = taken.nesting + 1 := rfl
      have inner := outcomes cursor.rest.length
      rw [chain_step _ first.spine next]
      refine .guarded fun (deeper : taken.deeper.nesting ≤ nestingLimit) => .behind spans (.deeper ?_)
      refine .andThen (fun _ => .binary spelled binds first)
        (below.binary level taken.deeper moved deeper) (inner.binary level taken.deeper moved deeper) ?_
      intro right after ts second inside second_fits second_level
      have inside_length : taken.rest.length = ts.length + after.rest.length := inside.length
      have longer := below.chain (.binary spelled binds first second) nesting after (by omega)
        (by rw [Derivation.spine]; omega) (by rw [Derivation.nesting]; omega)
      simpa using longer

theorem suffixes_breaks {object : Expr} (first : Derivation .operand before object)
    (opened : cursor.nesting = nesting + first.spine)
    (fits : nesting + first.nesting ≤ nestingLimit) :
    Breaks .operand before cursor (landed (suffixes object first.spine cursor)) := by
  cases next : cursor.takeIf suffixOf with
  | none =>
      rw [suffixes_stop object first.spine next]
      exact .ok _
  | some taken =>
      obtain ⟨⟨suffix, taken⟩, moved⟩ := taken
      obtain ⟨token, passes, spans, taken_level⟩ := Cursor.of_takeIf_eq_some next
      obtain rfl := suffixOf_eq_some_iff.mp passes
      have length : cursor.rest.length = 1 + taken.rest.length := spans.length
      have deeper_level : taken.deeper.nesting = taken.nesting + 1 := rfl
      have inner := outcomes cursor.rest.length
      cases suffix with
      | member =>
          rw [suffixes_member object first.spine next]
          refine .guarded fun _ => .behind spans (.deeper ?_)
          refine .property (.member first) ?_
          intro name after token named inside level
          have inside_length : taken.rest.length = 1 + after.rest.length := inside.length
          -- the chain goes on with what has been read so far as its object
          have longer := below.suffixes (.member first named) nesting after (by omega)
            (by rw [Derivation.spine]; omega) (by rw [Derivation.nesting]; omega)
          simpa [Suffix.mark] using longer
      | index =>
          rw [suffixes_index object first.spine next]
          refine .guarded fun _ => .behind spans (.deeper ?_)
          refine .andThen (fun _ => .index first) (below.expression taken.deeper moved)
            (inner.expression taken.deeper moved) ?_
          intro key closing ts derivation inside inner_fits inner_level
          refine .expect (.index first (.whole derivation)) fun after closed level => ?_
          have inside_length : taken.rest.length = ts.length + closing.rest.length := inside.length
          have closed_length : closing.rest.length = 1 + after.rest.length := closed.length
          have longer := below.suffixes (.index first derivation) nesting after (by omega)
            (by rw [Derivation.spine]; omega) (by rw [Derivation.nesting]; omega)
          simpa using longer
      | call =>
          rw [suffixes_call object first.spine next]
          refine .guarded fun deeper => .behind spans (.deeper ?_)
          have room : taken.deeper.nesting ≤ nestingLimit := by omega
          refine .andThen (fun _ => .call first) (below.listed .closeParen taken.deeper moved room)
            (inner.listed .closeParen taken.deeper moved room) ?_
          intro arguments after ts derivation inside inner_fits inner_level
          have inside_length : taken.rest.length = ts.length + after.rest.length := inside.length
          have longer := below.suffixes (.call first derivation) nesting after (by omega)
            (by rw [Derivation.spine]; omega) (by rw [Derivation.nesting]; omega)
          simpa using longer

end

/-- Every step fails behind the start of a phrase only. -/
theorem breakings (size : Nat) : Breakings size := by
  -- by induction on the tokens ahead: a step calls the others in front of fewer
  induction size with
  | zero => constructor <;> (intros; omega)
  | succ size ih =>
      have below {cursor : Cursor} (less : cursor.rest.length < size + 1) :
          Breakings cursor.rest.length := ih.mono (Nat.lt_succ_iff.mp less)
      exact
        { expression := fun cursor less => expression_breaks (below less)
          binary := fun level cursor less room => binary_breaks (below less) room level
          chain := fun first nesting cursor less => chain_breaks (below less) first
          unary := fun cursor less room => unary_breaks (below less) room
          suffixes := fun first nesting cursor less => suffixes_breaks (below less) first
          listed := fun close cursor less room => listed_breaks (below less) room close }

end Parser

end MarkupTree
