import MarkupTree.Proofs.Syntax.Grammar
import MarkupTree.Proofs.Syntax.Steps

/-!
What the steps of the parser come to. A step that succeeds has read tokens that derive its tree within
the nesting limit, and has given back all the levels of nesting that it opened. A step that fails has
opened two levels for each token at most.
-/

namespace MarkupTree

namespace Cursor

def Spans (start : Cursor) (tokens : List Token) (after : Cursor) : Prop :=
  (∃ front, start.rest = front ++ after.rest ∧ front.map Located.token = tokens) ∧
    after.finish = start.finish

namespace Spans

theorem nil (cursor : Cursor) : Spans cursor [] cursor :=
  ⟨⟨[], rfl, rfl⟩, rfl⟩

theorem append {start middle after : Cursor} {ts us : List Token} (first : Spans start ts middle)
    (second : Spans middle us after) : Spans start (ts ++ us) after := by
  obtain ⟨⟨front, rest, rfl⟩, finish⟩ := first
  obtain ⟨⟨behind, middle_rest, rfl⟩, middle_finish⟩ := second
  refine ⟨⟨front ++ behind, ?_, List.map_append⟩, middle_finish.trans finish⟩
  rw [rest, middle_rest, List.append_assoc]

theorem length {start after : Cursor} {ts : List Token} (spans : Spans start ts after) :
    start.rest.length = ts.length + after.rest.length := by
  obtain ⟨⟨front, rest, rfl⟩, _⟩ := spans
  rw [rest, List.length_append, List.length_map]

end Spans

theorem of_takeIf_eq_some {α : Type} {cursor taken : Cursor} {test : Token → Option α} {found : α}
    {moved : taken.rest.length < cursor.rest.length}
    (next : cursor.takeIf test = some ⟨(found, taken), moved⟩) :
    ∃ token, test token = some found ∧ Spans cursor [token] taken ∧
      taken.nesting = cursor.nesting := by
  obtain ⟨rest, nesting, finish⟩ := cursor
  cases rest with
  | nil => cases next
  | cons located rest =>
      simp only [takeIf, Option.map_eq_some_iff] at next
      obtain ⟨other, passes, same⟩ := next
      simp only [Subtype.mk.injEq, Prod.mk.injEq] at same
      obtain ⟨rfl, rfl⟩ := same
      exact ⟨located.token, passes, ⟨⟨[located], rfl, rfl⟩, rfl⟩, rfl⟩

theorem of_exactly_eq_some {token : Token} {mark : Symbol} {nothing : Unit}
    (passes : exactly mark token = some nothing) : token = .symbol mark := by
  unfold exactly at passes
  split at passes
  · split at passes
    · rename_i same
      rw [same]
    · cases passes
  · cases passes

theorem of_take_eq_some {cursor taken : Cursor} {mark : Symbol} {nothing : Unit}
    {moved : taken.rest.length < cursor.rest.length}
    (next : cursor.take mark = some ⟨(nothing, taken), moved⟩) :
    Spans cursor [.symbol mark] taken ∧ taken.nesting = cursor.nesting := by
  obtain ⟨token, passes, behind⟩ := of_takeIf_eq_some next
  exact of_exactly_eq_some passes ▸ behind

end Cursor

namespace Parser

open Cursor (Spans)

/-! What the tests of the parser say of a token. -/

theorem of_binaryOf_eq_some {level : Nat} {token : Token} {operator : BinaryOperator}
    (passes : binaryOf level token = some operator) :
    ∃ mark, token = .symbol mark ∧ BinaryOperator.ofSymbol? mark = some operator ∧
      operator.looseness = level := by
  cases token with
  | symbol mark =>
      unfold binaryOf at passes
      dsimp only at passes
      split at passes
      · rename_i other spelled
        split at passes
        · rename_i binds
          cases passes
          exact ⟨mark, rfl, spelled, binds⟩
        · cases passes
      · cases passes
  | _ => cases passes

theorem of_unaryOf_eq_some {token : Token} {operator : UnaryOperator}
    (passes : unaryOf token = some operator) :
    ∃ mark, token = .symbol mark ∧ UnaryOperator.ofSymbol? mark = some operator := by
  cases token with
  | symbol mark => exact ⟨mark, rfl, passes⟩
  | _ => cases passes

def Suffix.mark : Suffix → Symbol
  | .member => .dot
  | .index => .openBracket
  | .call => .openParen

theorem suffixOf_eq_some_iff {token : Token} {suffix : Suffix} :
    suffixOf token = some suffix ↔ token = .symbol suffix.mark := by
  constructor
  · intro passes
    unfold suffixOf at passes
    split at passes <;> cases passes <;> rfl
  · rintro rfl
    cases suffix <;> rfl

theorem of_openingOf_eq_parenthesis {token : Token} (opens : openingOf token = some .parenthesis) :
    token = .symbol .openParen := by
  unfold openingOf at opens
  split at opens
  case h_4 => split at opens <;> cases opens
  all_goals cases opens
  rfl

theorem of_openingOf_eq_bracket {token : Token} (opens : openingOf token = some .bracket) :
    token = .symbol .openBracket := by
  unfold openingOf at opens
  split at opens
  case h_4 => split at opens <;> cases opens
  all_goals cases opens
  rfl

theorem derivation_of_whole {token : Token} {expr : Expr}
    (opens : openingOf token = some (.whole expr)) :
    ∃ derivation : Derivation .primary [token] expr, derivation.nesting = 0 := by
  unfold openingOf at opens
  split at opens
  case h_1 => cases opens; exact ⟨.keyword _, rfl⟩
  case h_2 => cases opens; exact ⟨.identifier _, rfl⟩
  case h_3 => cases opens; exact ⟨.string _, rfl⟩
  case h_4 =>
    split at opens
    · rename_i n read
      cases opens
      exact ⟨.number read, rfl⟩
    · cases opens
  all_goals cases opens

def Fails (levels : Nat) : SyntaxError → Prop
  | .unreadable _ => False
  | .tooDeep _ => nestingLimit < levels
  | .unexpectedToken .. | .unexpectedEnd _ => True

theorem Fails.mono {a b : Nat} {cause : SyntaxError} (fails : Fails a cause) (le : a ≤ b) :
    Fails b cause := by
  cases cause with
  | tooDeep place => exact Nat.lt_of_lt_of_le fails le
  | _ => exact fails

theorem unexpected_eq_error {α : Type} (cursor : Cursor) (expected : Expectation) :
    ∃ cause, cursor.unexpected expected = (.error cause : Except SyntaxError α) ∧
      ∀ levels, Fails levels cause := by
  unfold Cursor.unexpected
  split
  · exact ⟨_, rfl, fun _ => trivial⟩
  · exact ⟨_, rfl, fun _ => trivial⟩

/-- What a step comes to that starts behind the tokens `before` of its phrase: a tree that these and
the tokens that it reads derive, or an error. -/
inductive Outcome (phrase : Phrase) (before : List Token) (nesting levels : Nat) (start : Cursor) :
    Except SyntaxError (phrase.Tree × Cursor) → Prop
  | reads {tree : phrase.Tree} {after : Cursor} {ts whole : List Token}
      (spans : Spans start ts after) (tokens : before ++ ts = whole)
      (derivation : Derivation phrase whole tree)
      (fits : nesting + derivation.nesting ≤ nestingLimit) (balanced : after.nesting = nesting) :
      Outcome phrase before nesting levels start (.ok (tree, after))
  | fails {cause : SyntaxError} (fails : Fails levels cause) :
      Outcome phrase before nesting levels start (.error cause)

namespace Outcome

variable {phrase other : Phrase} {before outer : List Token} {nesting inner levels more : Nat}
  {start middle : Cursor}

theorem behind {us : List Token} {result : Except SyntaxError (phrase.Tree × Cursor)}
    (outcome : Outcome phrase (before ++ us) nesting levels middle result)
    (spans : Spans start us middle) (le : levels ≤ more) :
    Outcome phrase before nesting more start result := by
  cases outcome with
  | reads further tokens derivation fits balanced =>
      exact .reads (spans.append further) (by rw [← List.append_assoc, tokens]) derivation fits
        balanced
  | fails fails => exact .fails (fails.mono le)

theorem andThen {result : Except SyntaxError (phrase.Tree × Cursor)}
    {next : phrase.Tree × Cursor → Except SyntaxError (other.Tree × Cursor)}
    (first : Outcome phrase [] inner levels start result)
    (further : ∀ tree after ts (derivation : Derivation phrase ts tree), Spans start ts after →
      inner + derivation.nesting ≤ nestingLimit → after.nesting = inner →
      Outcome other outer nesting more middle (next (tree, after))) (le : levels ≤ more) :
    Outcome other outer nesting more middle (result >>= next) := by
  cases first with
  | reads spans tokens derivation fits balanced =>
      subst tokens
      exact further _ _ _ derivation spans fits balanced
  | fails fails => exact .fails (fails.mono le)

theorem guarded {cursor : Cursor} {step : Except SyntaxError (phrase.Tree × Cursor)}
    (inside : cursor.nesting + 1 ≤ nestingLimit → Outcome phrase before nesting levels start step)
    (le : cursor.nesting + 1 ≤ levels) :
    Outcome phrase before nesting levels start (guarded cursor step) := by
  unfold Parser.guarded
  split
  · rename_i deep
    exact .fails (Nat.lt_of_lt_of_le deep le)
  · exact inside (by omega)

theorem unexpected (cursor : Cursor) (expected : Expectation) :
    Outcome phrase before nesting levels start (cursor.unexpected expected) := by
  obtain ⟨cause, failed, fails⟩ := unexpected_eq_error cursor expected
  rw [failed]
  exact .fails (fails levels)

theorem required {α : Type} {test : Token → Option α} {expected : Expectation} {cursor : Cursor}
    {next : α × Cursor → Except SyntaxError (phrase.Tree × Cursor)}
    (met : ∀ found after token, test token = some found → Spans cursor [token] after →
      after.nesting = cursor.nesting →
      Outcome phrase before nesting levels start (next (found, after))) :
    Outcome phrase before nesting levels start (Parser.required test expected cursor >>= next) := by
  cases comes : cursor.takeIf test with
  | none =>
      obtain ⟨cause, failed, fails⟩ := unexpected_eq_error cursor expected
      rw [required_stop expected comes, failed]
      exact .fails (fails levels)
  | some taken =>
      obtain ⟨⟨found, after⟩, moved⟩ := taken
      obtain ⟨token, passes, spans, level⟩ := Cursor.of_takeIf_eq_some comes
      rw [required_take expected comes]
      exact met found after token passes spans level

theorem expect {cursor : Cursor} {mark : Symbol}
    {next : Unit × Cursor → Except SyntaxError (phrase.Tree × Cursor)}
    (met : ∀ after, Spans cursor [.symbol mark] after → after.nesting = cursor.nesting →
      Outcome phrase before nesting levels start (next ((), after))) :
    Outcome phrase before nesting levels start (landed (cursor.expect mark) >>= next) := by
  rw [landed_expect]
  refine required fun _ after token passes spans level => ?_
  obtain rfl := Cursor.of_exactly_eq_some passes
  exact met after spans level

theorem property {cursor : Cursor}
    {next : String × Cursor → Except SyntaxError (phrase.Tree × Cursor)}
    (met : ∀ name after token, propertyOf token = some name → Spans cursor [token] after →
      after.nesting = cursor.nesting →
      Outcome phrase before nesting levels start (next (name, after))) :
    Outcome phrase before nesting levels start (landed (property cursor) >>= next) := by
  rw [landed_property]
  exact required met

end Outcome

end Parser

end MarkupTree
