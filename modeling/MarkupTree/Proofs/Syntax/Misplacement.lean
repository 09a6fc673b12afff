import MarkupTree.Proofs.Syntax.Lexemes
import MarkupTree.Proofs.Syntax.Lookahead
import MarkupTree.Proofs.Syntax.Viability

/-!
Where a source is wrong. The parser names the first token that no expression goes on with, behind
tokens that are the start of one, or the end of a source that is itself the start of one.
-/

namespace MarkupTree

/-- The tokens are the start of an expression. -/
def StartsExpression (ts : List Token) : Prop := ∃ more expr, Derives (ts ++ more) expr

namespace Parser

theorem whole_broken {finish : Nat} {tokens : List Located} {cause : SyntaxError}
    (failed : whole finish tokens = .error cause) :
    Broken .expression [] ⟨tokens, 0, finish⟩ cause := by
  have breaks : Breaks .expression [] ⟨tokens, 0, finish⟩ (whole finish tokens) := by
    have room : (⟨tokens, 0, finish⟩ : Cursor).rest.length < tokens.length + 1 := Nat.lt_succ_self _
    rw [whole_step]
    refine .andThen (fun _ viable => viable) ((breakings _).expression _ room)
      ((outcomes _).expression _ room) ?_
    intro expr after ts derivation spans fits balanced
    dsimp only
    split
    · exact .ok _
    · exact .unexpected (.whole derivation) (by simp) after
  exact breaks cause failed

theorem not_startsExpression_of_stumbles {finish place : Nat} {front : List Located}
    {next : Located} {expected : Expectation} {found : String}
    (stumbles : ∀ rest, whole finish (front ++ next :: rest) =
      .error (.unexpectedToken place expected found)) :
    ¬ StartsExpression (front.map Located.token ++ [next.token]) := by
  rintro ⟨more, expr, derives⟩
  have spelled : (front ++ next :: more.map (⟨·, 0, 0⟩)).map Located.token =
      front.map Located.token ++ [next.token] ++ more := by
    simp [Function.comp_def]
  rw [← spelled] at derives
  -- a source with these tokens is accepted, and it is one that the parser stumbles over
  have stops := stumbles (more.map (⟨·, 0, 0⟩))
  have shallow : ¬ TooDeep (whole finish (front ++ next :: more.map (⟨·, 0, 0⟩))) := by
    rintro ⟨place, deep⟩
    rw [stops] at deep
    cases deep
  rw [whole_eq_ok_of_derives derives shallow] at stops
  cases stops

end Parser

theorem front_eq_takeWhile {tokens front rest : List Located} {next : Located}
    (increasing : tokens.Pairwise fun before after => before.start < after.start)
    (split : tokens = front ++ next :: rest) :
    front = tokens.takeWhile fun located => decide (located.start < next.start) := by
  subst split
  have before : ∀ located ∈ front, decide (located.start < next.start) = true := by
    intro located member
    exact decide_eq_true
      ((List.pairwise_append.mp increasing).2.2 located member next List.mem_cons_self)
  rw [List.takeWhile_append_of_pos before]
  simp

/--
A misplaced token is the first one that no expression goes on with, and it is named by its start. A
source that ends too early is named by its length; its tokens are the start of an expression, and no
expression themselves. Numbers are never at fault: each can be read.
-/
theorem parse_error_at_first_misplaced {source : String} {located : List Located}
    (lexed : tokenize source = .ok located) :
    (∀ place expected found, parse source = .error (.unexpectedToken place expected found) →
      ∃ before next after, located = before ++ next :: after ∧ next.start = place ∧
        StartsExpression (before.map Located.token) ∧
        ¬ StartsExpression (before.map Located.token ++ [next.token])) ∧
    (∀ place, parse source = .error (.unexpectedEnd place) →
      place = source.utf8ByteSize ∧
      (∃ more expr, more ≠ [] ∧ Derives (located.map Located.token ++ more) expr) ∧
      ¬ ∃ expr, Derives (located.map Located.token) expr) ∧
    (∀ digits, .number digits ∈ located.map Located.token → ∃ n, Decimal.read? digits = some n) ∧
    ∀ place found, parse source ≠ .error (.unexpectedToken place .number found) := by
  have parsed : parse source = Parser.whole source.utf8ByteSize located := by
    rw [parse, lexed]
    rfl
  have numbers : ∀ digits, .number digits ∈ located.map Located.token →
      ∃ n, Decimal.read? digits = some n := by
    intro digits member
    obtain ⟨token, inside, number⟩ := List.mem_map.mp member
    exact (Lexer.scan_lexemes lexed token inside).exists_read number
  rw [parsed]
  refine ⟨?_, ?_, numbers, ?_⟩
  · intro place expected found failed
    obtain ⟨front, next, rest, split, here, stumbles⟩ := Parser.whole_stumbles failed
    cases Parser.whole_broken failed with
    | token other nearest behind _ _ parted viable _ =>
        -- both accounts of the fault name a start, and no two tokens have the same one
        have increasing := (Lexer.scan_starts lexed).2
        have same : front = other := by
          rw [front_eq_takeWhile increasing split, front_eq_takeWhile increasing parted, here]
        subst same
        exact ⟨front, next, rest, split, here, viable,
          Parser.not_startsExpression_of_stumbles stumbles⟩
  · intro place failed
    cases Parser.whole_broken failed with
    | ended viable =>
        have underivable : ¬ ∃ expr, Derives (located.map Located.token) expr := by
          rintro ⟨expr, derives⟩
          have shallow : ¬ Parser.TooDeep (Parser.whole source.utf8ByteSize located) := by
            rintro ⟨deep, stops⟩
            rw [failed] at stops
            cases stops
          rw [Parser.whole_eq_ok_of_derives derives shallow] at failed
          cases failed
        obtain ⟨more, expr, derives⟩ := viable
        refine ⟨rfl, ⟨more, expr, ?_, derives⟩, underivable⟩
        rintro rfl
        rw [List.append_nil] at derives
        exact underivable ⟨expr, derives⟩
  · intro place found failed
    cases Parser.whole_broken failed with
    | token front next rest _ _ split viable number =>
        obtain ⟨digits, same, unread⟩ := number rfl
        have split : located = front ++ next :: rest := split
        obtain ⟨n, read⟩ := numbers digits (by rw [split, ← same]; simp)
        rw [unread] at read
        cases read

def openCall : List Located :=
  [⟨.identifier ['f'], 0, 1⟩, ⟨.symbol .openParen, 1, 2⟩, ⟨.identifier ['a'], 2, 3⟩,
    ⟨.symbol .comma, 3, 4⟩, ⟨.identifier ['b'], 5, 6⟩]

theorem open_call_misplaced :
    (tokenize "f(a, b].c" =
        .ok (openCall ++ [⟨.symbol .closeBracket, 6, 7⟩, ⟨.symbol .dot, 7, 8⟩,
          ⟨.identifier ['c'], 8, 9⟩]) ∧
      parse "f(a, b].c" = .error (.unexpectedToken 6 (.symbol .closeParen) "]") ∧
      ∃ before next after,
        openCall ++ [⟨.symbol .closeBracket, 6, 7⟩, ⟨.symbol .dot, 7, 8⟩,
          ⟨.identifier ['c'], 8, 9⟩] = before ++ next :: after ∧ next.start = 6 ∧
        StartsExpression (before.map Located.token) ∧
        ¬ StartsExpression (before.map Located.token ++ [next.token])) ∧
    (tokenize "f(a, b " = .ok openCall ∧ parse "f(a, b " = .error (.unexpectedEnd 7) ∧
      (∃ more expr, more ≠ [] ∧ Derives (openCall.map Located.token ++ more) expr) ∧
      ¬ ∃ expr, Derives (openCall.map Located.token) expr) := by
  have wrong : tokenize "f(a, b].c" = .ok (openCall ++ [⟨.symbol .closeBracket, 6, 7⟩,
      ⟨.symbol .dot, 7, 8⟩, ⟨.identifier ['c'], 8, 9⟩]) := by cbv
  have closer : parse "f(a, b].c" = .error (.unexpectedToken 6 (.symbol .closeParen) "]") := by cbv
  have short : tokenize "f(a, b " = .ok openCall := by cbv
  have early : parse "f(a, b " = .error (.unexpectedEnd 7) := by cbv
  obtain ⟨misplaced, -⟩ := parse_error_at_first_misplaced wrong
  obtain ⟨-, ended, -⟩ := parse_error_at_first_misplaced short
  exact ⟨⟨wrong, closer, misplaced _ _ _ closer⟩, short, early, (ended 7 early).2⟩

end MarkupTree
