import MarkupTree.Proofs.Syntax.Outcome
import Mathlib.Tactic.ByContra

/-!
What the grammar derives, the parser reads, as far as the nesting limit allows; where the limit does
not allow it, the parser says so. There is one lemma for each way to derive a phrase.
-/

namespace MarkupTree

namespace Cursor

theorem takeIf_eq_none {α : Type} {cursor : Cursor} {test : Token → Option α}
    (fails : ∀ next rest, cursor.rest = next :: rest → test next.token = none) :
    cursor.takeIf test = none := by
  obtain ⟨tokens, nesting, finish⟩ := cursor
  cases tokens with
  | nil => rfl
  | cons next rest =>
      simp only [takeIf, fails next rest rfl]
      rfl

theorem take_eq_none {cursor : Cursor} {mark : Symbol}
    (isnt : ∀ next rest, cursor.rest = next :: rest → next.token ≠ .symbol mark) :
    cursor.take mark = none := by
  refine takeIf_eq_none ?_
  intro next rest equal
  unfold exactly
  split
  · rename_i other token
    rw [if_neg]
    intro same
    exact isnt next rest equal (by rw [token, same])
  · rfl

namespace Spans

variable {start middle after : Cursor} {ts us : List Token} {token : Token} {mark : Symbol}

theorem split (spans : Spans start (ts ++ us) after) (nesting : Nat) :
    ∃ middle, middle.nesting = nesting ∧ Spans start ts middle ∧ Spans middle us after := by
  obtain ⟨⟨front, rest, tokens⟩, finish⟩ := spans
  obtain ⟨first, second, rfl, rfl, rfl⟩ := List.map_eq_append_iff.mp tokens
  refine ⟨⟨second ++ after.rest, nesting, start.finish⟩, rfl, ⟨⟨first, ?_, rfl⟩, rfl⟩,
    ⟨second, rfl, rfl⟩, finish⟩
  rw [rest, List.append_assoc]

theorem takeIf {α : Type} {test : Token → Option α} {found : α}
    (spans : Spans start (token :: us) after) (passes : test token = some found) :
    ∃ taken moved, start.takeIf test = some ⟨(found, taken), moved⟩ ∧
      taken.nesting = start.nesting ∧ Spans taken us after := by
  obtain ⟨⟨front, rest, tokens⟩, finish⟩ := spans
  obtain ⟨next, others, rfl, rfl, rfl⟩ := List.map_eq_cons_iff.mp tokens
  obtain ⟨_, nesting, limit⟩ := start
  subst rest
  refine ⟨⟨others ++ after.rest, nesting, limit⟩, Nat.lt_succ_self _, ?_, rfl, ⟨others, rfl, rfl⟩,
    finish⟩
  simp only [List.cons_append, Cursor.takeIf, passes]
  rfl

theorem take (spans : Spans start (.symbol mark :: us) after) :
    ∃ taken moved, start.take mark = some ⟨((), taken), moved⟩ ∧
      taken.nesting = start.nesting ∧ Spans taken us after :=
  spans.takeIf (if_pos rfl)

theorem required {α : Type} {test : Token → Option α} {found : α}
    (spans : Spans start (token :: us) after) (passes : test token = some found)
    (expected : Expectation) :
    ∃ taken, Parser.required test expected start = .ok (found, taken) ∧
      taken.nesting = start.nesting ∧ Spans taken us after := by
  obtain ⟨taken, moved, takes, behind⟩ := spans.takeIf passes
  exact ⟨taken, Parser.required_take expected takes, behind⟩

theorem expect (spans : Spans start (.symbol mark :: us) after) :
    ∃ taken, Parser.landed (start.expect mark) = .ok ((), taken) ∧
      taken.nesting = start.nesting ∧ Spans taken us after := by
  rw [Parser.landed_expect]
  exact spans.required (if_pos rfl) _

theorem property {name : String} (spans : Spans start (token :: us) after)
    (named : Parser.propertyOf token = some name) :
    ∃ taken, Parser.landed (Parser.property start) = .ok (name, taken) ∧
      taken.nesting = start.nesting ∧ Spans taken us after := by
  rw [Parser.landed_property]
  exact spans.required named _

theorem eq_of_nil (spans : Spans start [] after) (level : start.nesting = after.nesting) :
    start = after := by
  obtain ⟨⟨front, rest, tokens⟩, finish⟩ := spans
  obtain rfl := List.map_eq_nil_iff.mp tokens
  cases start
  cases after
  simp_all

end Spans

end Cursor

namespace Parser

open Cursor (Spans)

/-- Up to the nesting limit two results are the same; beyond it the first one is the error of the
limit. -/
def Reaches {β : Type} (levels : Nat) (result other : Except SyntaxError β) : Prop :=
  if levels ≤ nestingLimit then result = other else ∃ place, result = .error (.tooDeep place)

namespace Reaches

variable {α β : Type} {a b : Nat}

theorem of_eq {result other : Except SyntaxError β} (room : a ≤ nestingLimit)
    (same : result = other) : Reaches a result other := by
  rw [Reaches, if_pos room]
  exact same

theorem trans {first second third : Except SyntaxError β} (start : Reaches a first second)
    (finish : a ≤ nestingLimit → Reaches b second third) (le : a ≤ b) : Reaches b first third := by
  unfold Reaches at start
  split at start
  · rename_i room
    rw [start]
    exact finish room
  · rw [Reaches, if_neg (by omega)]
    exact start

theorem bind {first : Except SyntaxError α} {x : α} {next : α → Except SyntaxError β}
    {other : Except SyntaxError β} (start : Reaches a first (.ok x))
    (finish : a ≤ nestingLimit → Reaches b (next x) other) (le : a ≤ b) :
    Reaches b (first >>= next) other := by
  unfold Reaches at start
  split at start
  · rename_i room
    rw [start]
    exact finish room
  · rw [Reaches, if_neg (by omega)]
    obtain ⟨place, deep⟩ := start
    exact ⟨place, by rw [deep]; rfl⟩

theorem guarded {cursor : Cursor} {step other : Except SyntaxError β}
    (inside : cursor.nesting + 1 ≤ nestingLimit → Reaches a step other)
    (le : cursor.nesting + 1 ≤ a) : Reaches a (guarded cursor step) other := by
  unfold Parser.guarded
  split
  · rw [Reaches, if_neg (by omega)]
    exact ⟨_, rfl⟩
  · exact inside (by omega)

end Reaches

def Continues : Phrase → Token → Prop
  | .expression, token => token = .symbol .question ∨ suffixOf token ≠ none ∨
      ∃ level, level ≤ loosest ∧ binaryOf level token ≠ none
  | .operation level, token => suffixOf token ≠ none ∨
      ∃ tighter, tighter ≤ level ∧ binaryOf tighter token ≠ none
  | _, _ => False

def Stops (phrase : Phrase) (tail : List Located) : Prop :=
  ∀ next rest, tail = next :: rest → ¬ Continues phrase next.token

theorem Stops.of_spans {phrase : Phrase} {start after : Cursor} {token : Token} {us : List Token}
    (spans : Spans start (token :: us) after) (ends : ¬ Continues phrase token) :
    Stops phrase start.rest := by
  intro next rest equal continues
  obtain ⟨⟨front, start_rest, tokens⟩, _⟩ := spans
  obtain ⟨other, others, rfl, rfl, _⟩ := List.map_eq_cons_iff.mp tokens
  obtain ⟨rfl, _⟩ := List.cons.inj (equal.symm.trans start_rest)
  exact ends continues

theorem Stops.operation {tail : List Located} (stops : Stops .expression tail) :
    Stops (.operation loosest) tail :=
  fun next rest equal continues => stops next rest equal (.inr continues)

theorem Stops.tighter {level : Nat} {tail : List Located} (stops : Stops (.operation (level + 1)) tail) :
    Stops (.operation level) tail := by
  intro next rest equal continues
  refine stops next rest equal ?_
  rcases continues with suffix | ⟨tighter, le, operator⟩
  · exact .inl suffix
  · exact .inr ⟨tighter, by omega, operator⟩

theorem not_continues_of_mark {mark : Symbol} (phrase : Phrase)
    (plain : mark = .colon ∨ mark = .comma ∨ mark = .closeParen ∨ mark = .closeBracket) :
    ¬ Continues phrase (.symbol mark) := by
  rcases plain with rfl | rfl | rfl | rfl <;> cases phrase <;>
    simp [Continues, suffixOf, binaryOf, BinaryOperator.ofSymbol?]

theorem not_continues_question (level : Nat) :
    ¬ Continues (.operation level) (.symbol .question) := by
  simp [Continues, suffixOf, binaryOf, BinaryOperator.ofSymbol?]

theorem not_continues_of_operator {mark : Symbol} {operator : BinaryOperator} {level : Nat}
    (spelled : BinaryOperator.ofSymbol? mark = some operator)
    (binds : operator.looseness = level + 1) :
    ¬ Continues (.operation level) (.symbol mark) := by
  rintro (suffix | ⟨tighter, le, other⟩)
  · cases mark <;> simp [BinaryOperator.ofSymbol?] at spelled <;> simp [suffixOf] at suffix
  · simp only [binaryOf, spelled, binds] at other
    rw [if_neg (by omega)] at other
    exact other rfl

def Begins : Phrase → List Token → Prop
  | .items _, _ => True
  | .expression, ts | .operation _, ts =>
      ∃ first rest, ts = first :: rest ∧ (openingOf first ≠ none ∨ unaryOf first ≠ none)
  | .operand, ts | .primary, ts => ∃ first rest, ts = first :: rest ∧ openingOf first ≠ none

theorem begins {phrase : Phrase} {ts : List Token} {tree : phrase.Tree}
    (derivation : Derivation phrase ts tree) : Begins phrase ts := by
  induction derivation with
  | operation _ inner | tighter _ inner | primary _ inner => exact inner
  | conditional _ _ _ asked =>
      obtain ⟨first, rest, equal, opens⟩ := asked
      exact ⟨first, _, by rw [equal]; rfl, opens⟩
  | binary _ _ _ _ inner _ | member _ _ inner | index _ _ inner _ | call _ _ inner _ =>
      obtain ⟨first, rest, equal, opens⟩ := inner
      exact ⟨first, _, by rw [equal]; rfl, opens⟩
  | unprefixed _ inner =>
      obtain ⟨first, rest, equal, opens⟩ := inner
      exact ⟨first, rest, equal, .inl opens⟩
  | @unary ts mark operator expr spelled =>
      exact ⟨_, _, rfl, .inr (by rw [unaryOf, spelled]; simp)⟩
  | keyword | identifier | string | parenthesis | array => exact ⟨_, _, rfl, by simp [openingOf]⟩
  | number read => exact ⟨_, _, rfl, by simp [openingOf, read]⟩
  | none | last | comma => exact trivial

theorem unaryOf_eq_none_of_opening {token : Token} (opens : openingOf token ≠ none) :
    unaryOf token = none := by
  cases token with
  | symbol mark => cases mark <;> first | rfl | exact absurd rfl opens
  | _ => rfl

theorem listed_item {close : Symbol} {ts us : List Token} {expr : Expr} {start after : Cursor}
    (item : Derivation .expression ts expr) (spans : Spans start (ts ++ us) after)
    (ends : close = .closeParen ∨ close = .closeBracket) :
    landed (listed close start) = (do
      let (item, parted) ← landed (expression start)
      match parted.take .comma with
      | some ⟨(_, next), _⟩ => do
          let (items, after) ← landed (listed close next)
          return (item :: items, after)
      | none => do
          let (_, after) ← landed (parted.expect close)
          return ([item], after)) := by
  obtain ⟨first, rest, equal, opens⟩ := begins item
  obtain ⟨⟨front, start_rest, tokens⟩, _⟩ := spans
  rw [equal, List.cons_append] at tokens
  obtain ⟨located, others, rfl, token, _⟩ := List.map_eq_cons_iff.mp tokens
  have goes : start.take close = none := by
    refine Cursor.take_eq_none ?_
    intro next behind same mark
    obtain ⟨rfl, _⟩ := List.cons.inj (same.symm.trans start_rest)
    rw [← token, mark] at opens
    rcases ends with rfl | rfl <;> simp [openingOf, unaryOf, UnaryOperator.ofSymbol?] at opens
  have more : ¬ start.rest.isEmpty = true := by
    rw [start_rest]
    exact Bool.false_ne_true
  exact (listed_step goes).trans (if_neg more)

/-- How the parser reads a phrase of so many levels between two places. Chains go on behind it, with
as many levels open as they have links. -/
def Complete : (phrase : Phrase) → List Token → phrase.Tree → (levels spine : Nat) → Prop
  | .expression, ts, expr, levels, _ =>
      ∀ start after, Spans start ts after → after.nesting = start.nesting →
        Stops .expression after.rest → start.nesting ≤ nestingLimit →
        Reaches (start.nesting + levels) (landed (expression start)) (.ok (expr, after))
  | .operation 0, ts, expr, levels, _ =>
      ∀ start after, Spans start ts after → after.nesting = start.nesting →
        Stops (.operation 0) after.rest → start.nesting ≤ nestingLimit →
        Reaches (start.nesting + levels) (landed (unary start)) (.ok (expr, after))
  | .operation (level + 1), ts, expr, levels, spine =>
      ∀ start after, Spans start ts after → after.nesting = start.nesting + spine →
        Stops (.operation level) after.rest → start.nesting ≤ nestingLimit →
        Reaches (start.nesting + levels) (landed (binary (level + 1) start))
          (landed (chain level expr spine after))
  | .operand, ts, expr, levels, spine =>
      ∀ start after, Spans start ts after → after.nesting = start.nesting + spine →
        start.nesting ≤ nestingLimit →
        Reaches (start.nesting + levels) (landed (operand start))
          (landed (suffixes expr spine after))
  | .primary, ts, expr, levels, _ =>
      ∀ start after, Spans start ts after → after.nesting = start.nesting →
        start.nesting ≤ nestingLimit →
        Reaches (start.nesting + levels) (landed (primary start)) (.ok (expr, after))
  | .items close, ts, items, levels, _ =>
      ∀ start after, Spans start ts after → after.nesting = start.nesting →
        close = .closeParen ∨ close = .closeBracket → start.nesting ≤ nestingLimit →
        Reaches (start.nesting + levels) (landed (listed close start)) (.ok (items, after))

namespace Complete

variable {ts us vs : List Token} {expr other third : Expr} {items : List Expr} {close : Symbol}
  {level a b c spine beside : Nat}

theorem ended (complete : Complete (.operation level) ts expr a spine) (start after : Cursor)
    (spans : Spans start ts after) (same : after.nesting = start.nesting)
    (stops : Stops (.operation level) after.rest) (room : start.nesting ≤ nestingLimit) :
    Reaches (start.nesting + a) (landed (binary level start)) (.ok (expr, after)) := by
  cases level with
  | zero =>
      rw [binary_zero]
      exact complete start after spans same stops room
  | succ level =>
      -- The chain ends with its levels open, so this is where it gives them back.
      let chained : Cursor := { after with nesting := start.nesting + spine }
      refine (complete start chained spans rfl stops.tighter room).trans ?_ (Nat.le_refl _)
      intro within
      have ends : chained.takeIf (binaryOf (level + 1)) = none := by
        refine Cursor.takeIf_eq_none ?_
        intro next rest equal
        by_contra operator
        exact stops next rest equal (.inr ⟨level + 1, Nat.le_refl _, operator⟩)
      rw [chain_stop _ _ ends, Cursor.leave, Nat.add_sub_cancel, ← same]
      exact .of_eq (by omega) rfl

theorem operation (inner : Complete (.operation loosest) ts expr a spine) :
    Complete .expression ts expr (a + 1) beside := by
  intro start after spans same stops room
  rw [expression_step]
  refine .guarded ?_ (by omega)
  intro (deeper : start.deeper.nesting ≤ nestingLimit)
  rw [conditional_step, bind_assoc]
  have opened : start.deeper.nesting = start.nesting + 1 := rfl
  have closed : after.deeper.nesting = after.nesting + 1 := rfl
  refine (inner.ended start.deeper after.deeper spans (by omega) stops.operation deeper).bind ?_
    (by omega)
  intro within
  have unasked : after.deeper.take .question = none :=
    Cursor.take_eq_none fun next rest equal mark => stops next rest equal (.inl mark)
  dsimp only
  rw [unasked]
  exact .of_eq (by omega) rfl

theorem conditional (asked : Complete (.operation loosest) ts expr a spine)
    (chosen : Complete .expression us other b 0) (refused : Complete .expression vs third c 0) :
    Complete .expression (ts ++ .symbol .question :: (us ++ .symbol .colon :: vs))
      (.conditional expr other third) (max a (max b c) + 1) 0 := by
  intro start after spans same stops room
  obtain ⟨tested, tested_level, first, spans⟩ := spans.split start.deeper.nesting
  obtain ⟨marked, moved, question, marked_level, behind⟩ := spans.take
  obtain ⟨parted, parted_level, second, behind⟩ := behind.split start.deeper.nesting
  obtain ⟨last, colon, last_level, behind_colon⟩ := behind.expect
  rw [expression_step]
  refine .guarded ?_ (by omega)
  intro (deeper : start.deeper.nesting ≤ nestingLimit)
  rw [conditional_step, bind_assoc]
  have opened : start.deeper.nesting = start.nesting + 1 := rfl
  refine (asked.ended start.deeper tested first tested_level
    (.of_spans spans (not_continues_question _)) deeper).bind ?_ (by omega)
  intro within
  dsimp only
  rw [question, bind_assoc]
  refine (chosen marked parted second (by omega) (.of_spans behind
    (not_continues_of_mark _ (.inl rfl))) (by omega)).bind ?_ (by omega)
  intro within₂
  dsimp only
  rw [colon, bind_assoc]
  simp only [bind_assoc]
  have closed : after.deeper.nesting = after.nesting + 1 := rfl
  refine (refused last after.deeper behind_colon (by omega) stops (by omega)).bind ?_ (by omega)
  intro within₃
  exact .of_eq (by omega) rfl

theorem tighter (inner : Complete (.operation level) ts expr a spine) :
    Complete (.operation (level + 1)) ts expr a 0 := by
  intro start after spans same stops room
  rw [binary_succ]
  refine (inner.ended start after spans same stops room).bind ?_ (Nat.le_refl _)
  intro within
  exact .of_eq within rfl

theorem binary {mark : Symbol} {operator : BinaryOperator}
    (spelled : BinaryOperator.ofSymbol? mark = some operator)
    (binds : operator.looseness = level + 1)
    (first : Complete (.operation (level + 1)) ts expr a spine)
    (second : Complete (.operation level) us other b beside) :
    Complete (.operation (level + 1)) (ts ++ .symbol mark :: us) (.binary operator expr other)
      (max a (spine + 1 + b)) (spine + 1) := by
  intro start after spans same stops room
  obtain ⟨parted, parted_level, front, spans⟩ := spans.split (start.nesting + spine)
  have passes : binaryOf (level + 1) (.symbol mark) = some operator := by
    simp only [binaryOf, spelled, binds, if_true]
  obtain ⟨taken, moved, next, taken_level, behind⟩ := spans.takeIf passes
  refine (first start parted front parted_level (.of_spans spans
    (not_continues_of_operator spelled binds)) room).trans ?_ (by omega)
  intro within
  rw [chain_step _ _ next]
  refine .guarded ?_ (by omega)
  intro (deeper : taken.deeper.nesting ≤ nestingLimit)
  have opened : taken.deeper.nesting = taken.nesting + 1 := rfl
  refine (second.ended taken.deeper after behind (by omega) stops deeper).bind ?_ (by omega)
  intro within₂
  exact .of_eq (by omega) rfl

theorem unprefixed (inner : Complete .operand ts expr a spine)
    (opens : Begins .operand ts) : Complete (.operation 0) ts expr a beside := by
  intro start after spans same stops room
  obtain ⟨first, others, rfl, opens⟩ := opens
  have plain : start.takeIf unaryOf = none := by
    obtain ⟨⟨front, rest, tokens⟩, _⟩ := spans
    obtain ⟨located, behind, rfl, rfl, _⟩ := List.map_eq_cons_iff.mp tokens
    refine Cursor.takeIf_eq_none ?_
    intro next tail equal
    obtain ⟨rfl, _⟩ := List.cons.inj (equal.symm.trans rest)
    exact unaryOf_eq_none_of_opening opens
  let chained : Cursor := { after with nesting := start.nesting + spine }
  have ends : chained.takeIf suffixOf = none := by
    refine Cursor.takeIf_eq_none ?_
    intro next behind equal
    by_contra suffix
    exact stops next behind equal (.inl suffix)
  rw [unary_stop plain]
  refine (inner start chained spans rfl room).trans ?_ (Nat.le_refl _)
  intro within
  rw [suffixes_stop _ _ ends, Cursor.leave, Nat.add_sub_cancel, ← same]
  exact .of_eq (by omega) rfl

theorem unary {mark : Symbol} {operator : UnaryOperator}
    (spelled : UnaryOperator.ofSymbol? mark = some operator)
    (inner : Complete (.operation 0) ts expr a spine) :
    Complete (.operation 0) (.symbol mark :: ts) (.unary operator expr) (a + 1) beside := by
  intro start after spans same stops room
  obtain ⟨taken, moved, next, taken_level, behind⟩ :=
    spans.takeIf (show unaryOf (.symbol mark) = some operator from spelled)
  rw [unary_step next]
  refine .guarded ?_ (by omega)
  intro (deeper : taken.deeper.nesting ≤ nestingLimit)
  have opened : taken.deeper.nesting = taken.nesting + 1 := rfl
  have closed : after.deeper.nesting = after.nesting + 1 := rfl
  refine (inner taken.deeper after.deeper behind (by omega) stops deeper).bind ?_ (by omega)
  intro within
  exact .of_eq (by omega) rfl

theorem primary (inner : Complete .primary ts expr a spine) : Complete .operand ts expr a 0 := by
  intro start after spans same room
  rw [operand_step]
  refine (inner start after spans same room).bind ?_ (Nat.le_refl _)
  intro within
  exact .of_eq within rfl

theorem member {token : Token} {name : String} (object : Complete .operand ts expr a spine)
    (named : propertyOf token = some name) :
    Complete .operand (ts ++ [.symbol .dot, token]) (.member expr name) (max a (spine + 1))
      (spine + 1) := by
  intro start after spans same room
  obtain ⟨parted, parted_level, front, spans⟩ := spans.split (start.nesting + spine)
  obtain ⟨taken, moved, next, taken_level, behind⟩ :=
    spans.takeIf (show suffixOf (.symbol .dot) = some .member from rfl)
  have behind : Spans taken.deeper [token] after := behind
  obtain ⟨last, property, last_level, spans⟩ := behind.property named
  have opened : taken.deeper.nesting = taken.nesting + 1 := rfl
  refine (object start parted front parted_level room).trans ?_ (by omega)
  intro within
  rw [suffixes_member _ _ next]
  refine .guarded ?_ (by omega)
  intro deeper
  rw [property, spans.eq_of_nil (by omega)]
  exact .of_eq (by omega) rfl

theorem index (object : Complete .operand ts expr a spine) (inner : Complete .expression us other b 0) :
    Complete .operand (ts ++ .symbol .openBracket :: (us ++ [.symbol .closeBracket]))
      (.index expr other) (max a (spine + 1 + b)) (spine + 1) := by
  intro start after spans same room
  obtain ⟨parted, parted_level, front, spans⟩ := spans.split (start.nesting + spine)
  obtain ⟨taken, moved, next, taken_level, behind⟩ :=
    spans.takeIf (show suffixOf (.symbol .openBracket) = some .index from rfl)
  obtain ⟨closing, closing_level, middle, behind⟩ := behind.split taken.deeper.nesting
  obtain ⟨last, closed, last_level, spans⟩ := behind.expect
  have opened : taken.deeper.nesting = taken.nesting + 1 := rfl
  refine (object start parted front parted_level room).trans ?_ (by omega)
  intro within
  rw [suffixes_index _ _ next]
  refine .guarded ?_ (by omega)
  intro deeper
  refine (inner taken.deeper closing middle closing_level (.of_spans behind
    (not_continues_of_mark _ (by simp))) (by omega)).bind ?_ (by omega)
  intro within₂
  dsimp only
  rw [closed, spans.eq_of_nil (by omega)]
  exact .of_eq (by omega) rfl

theorem call (callee : Complete .operand ts expr a spine)
    (inner : Complete (.items .closeParen) us items b beside) :
    Complete .operand (ts ++ .symbol .openParen :: us) (.call expr items) (max a (spine + 1 + b))
      (spine + 1) := by
  intro start after spans same room
  obtain ⟨parted, parted_level, front, spans⟩ := spans.split (start.nesting + spine)
  obtain ⟨taken, moved, next, taken_level, behind⟩ :=
    spans.takeIf (show suffixOf (.symbol .openParen) = some .call from rfl)
  have opened : taken.deeper.nesting = taken.nesting + 1 := rfl
  refine (callee start parted front parted_level room).trans ?_ (by omega)
  intro within
  rw [suffixes_call _ _ next]
  refine .guarded ?_ (by omega)
  intro deeper
  refine (inner taken.deeper after behind (by omega) (.inl rfl) (by omega)).bind ?_ (by omega)
  intro within₂
  exact .of_eq (by omega) rfl

theorem single {token : Token} (opens : openingOf token = some (.whole expr)) :
    Complete .primary [token] expr 0 0 := by
  intro start after spans same room
  obtain ⟨taken, moved, next, taken_level, spans⟩ := spans.takeIf opens
  rw [primary_whole next, spans.eq_of_nil (by omega)]
  exact .of_eq room rfl

theorem parenthesis (inner : Complete .expression ts expr a 0) :
    Complete .primary (.symbol .openParen :: (ts ++ [.symbol .closeParen])) expr a 0 := by
  intro start after spans same room
  obtain ⟨taken, moved, next, taken_level, behind⟩ :=
    spans.takeIf (show openingOf (.symbol .openParen) = some .parenthesis from rfl)
  obtain ⟨closing, closing_level, middle, behind⟩ := behind.split taken.nesting
  obtain ⟨last, closed, last_level, spans⟩ := behind.expect
  rw [primary_parenthesis next]
  refine (inner taken closing middle closing_level (.of_spans behind
    (not_continues_of_mark _ (by simp))) (by omega)).bind ?_ (by omega)
  intro within
  dsimp only
  rw [closed, spans.eq_of_nil (by omega)]
  exact .of_eq (by omega) rfl

theorem array (inner : Complete (.items .closeBracket) ts items a spine) :
    Complete .primary (.symbol .openBracket :: ts) (.array items) a 0 := by
  intro start after spans same room
  obtain ⟨taken, moved, next, taken_level, behind⟩ :=
    spans.takeIf (show openingOf (.symbol .openBracket) = some .bracket from rfl)
  rw [primary_bracket next]
  refine (inner taken after behind (by omega) (.inr rfl) (by omega)).bind ?_ (by omega)
  intro within
  exact .of_eq (by omega) rfl

theorem none : Complete (.items close) [.symbol close] [] 0 0 := by
  intro start after spans same ends room
  obtain ⟨taken, moved, next, taken_level, spans⟩ := spans.take
  rw [listed_close next, spans.eq_of_nil (by omega)]
  exact .of_eq room rfl

theorem last (only : Derivation .expression ts expr) (inner : Complete .expression ts expr a 0) :
    Complete (.items close) (ts ++ [.symbol close]) [expr] a 0 := by
  intro start after spans same ends room
  rw [listed_item only spans ends]
  obtain ⟨closing, closing_level, front, spans⟩ := spans.split start.nesting
  obtain ⟨last, closed, last_level, behind⟩ := spans.expect
  have comma : closing.take .comma = Option.none := by
    refine Cursor.take_eq_none ?_
    intro next rest equal mark
    obtain ⟨⟨tail, closing_rest, tokens⟩, _⟩ := spans
    obtain ⟨other, others, rfl, token, _⟩ := List.map_eq_cons_iff.mp tokens
    obtain ⟨rfl, _⟩ := List.cons.inj (equal.symm.trans closing_rest)
    rw [token] at mark
    rcases ends with rfl | rfl <;> cases mark
  refine (inner start closing front closing_level (.of_spans spans
    (not_continues_of_mark _ (.inr (.inr ends)))) room).bind ?_ (Nat.le_refl _)
  intro within
  dsimp only
  rw [comma]
  dsimp only
  rw [closed, behind.eq_of_nil (by omega)]
  exact .of_eq within rfl

theorem comma (only : Derivation .expression ts expr) (first : Complete .expression ts expr a 0)
    (rest : Complete (.items close) us items b beside) :
    Complete (.items close) (ts ++ .symbol .comma :: us) (expr :: items) (max a b) 0 := by
  intro start after spans same ends room
  rw [listed_item only spans ends]
  obtain ⟨parted, parted_level, front, spans⟩ := spans.split start.nesting
  obtain ⟨taken, moved, next, taken_level, behind⟩ := spans.take
  refine (first start parted front parted_level (.of_spans spans
    (not_continues_of_mark _ (by simp))) room).bind ?_ (by omega)
  intro within
  dsimp only
  rw [next]
  refine (rest taken after behind (by omega) ends (by omega)).bind ?_ (by omega)
  intro within₂
  exact .of_eq (by omega) rfl

end Complete

/-- Every phrase is read as its derivation says. -/
theorem complete {phrase : Phrase} {ts : List Token} {tree : phrase.Tree}
    (derivation : Derivation phrase ts tree) :
    Complete phrase ts tree derivation.nesting derivation.spine := by
  induction derivation with
  | operation _ ih => exact ih.operation
  | conditional _ _ _ asked chosen refused => exact asked.conditional chosen refused
  | tighter _ ih => exact ih.tighter
  | binary spelled binds _ _ first second => exact .binary spelled binds first second
  | unprefixed inner ih => exact ih.unprefixed (begins inner)
  | unary spelled _ ih => exact .unary spelled ih
  | primary _ ih => exact ih.primary
  | member _ named ih => exact ih.member named
  | index _ _ object inner => exact object.index inner
  | call _ _ callee inner => exact callee.call inner
  | keyword | identifier | string => exact .single rfl
  | number read => exact .single (by rw [openingOf, read])
  | parenthesis _ ih => exact ih.parenthesis
  | array _ ih => exact ih.array
  | none => exact .none
  | last only ih => exact .last only ih
  | comma only _ first rest => exact .comma only first rest

theorem whole_complete {tokens : List Located} {expr : Expr}
    (derivation : Derivation .expression (tokens.map Located.token) expr) (finish : Nat) :
    Reaches derivation.nesting (whole finish tokens) (.ok expr) := by
  have spans : Spans ⟨tokens, 0, finish⟩ (tokens.map Located.token) ⟨[], 0, finish⟩ :=
    ⟨⟨tokens, (List.append_nil tokens).symm, rfl⟩, rfl⟩
  have stops : Stops .expression [] := by
    intro next rest equal
    cases equal
  have read := complete derivation _ _ spans rfl stops (Nat.zero_le _)
  rw [Nat.zero_add] at read
  rw [whole_step]
  exact read.bind (fun within => .of_eq within rfl) (Nat.le_refl _)

end Parser

end MarkupTree
