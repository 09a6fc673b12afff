import MarkupTree.Proofs.Syntax.Soundness

/-!
The parser looks one token ahead. What a step makes of the tokens up to the one that it stops at, or
stumbles over, stays the same whatever stands behind that token.
-/

namespace MarkupTree

namespace Cursor

def before (cursor : Cursor) (rest : List Located) : Cursor := { cursor with rest := rest }

def skip (cursor : Cursor) : Cursor := cursor.before cursor.rest.tail

variable {α : Type} {cursor taken : Cursor} {test : Token → Option α} {rest : List Located}

theorem takeIf_before_eq_none (ends : cursor.takeIf test = none)
    (same : rest.head? = cursor.rest.head?) : (cursor.before rest).takeIf test = none := by
  obtain ⟨tokens, nesting, finish⟩ := cursor
  cases tokens with
  | nil =>
      obtain rfl := List.head?_eq_none_iff.mp same
      exact ends
  | cons next others =>
      obtain ⟨more, rfl⟩ := List.head?_eq_some_iff.mp same
      simpa [takeIf, before] using ends

theorem takeIf_before_eq_some {found : α} {moved : taken.rest.length < cursor.rest.length}
    (takes : cursor.takeIf test = some ⟨(found, taken), moved⟩)
    (same : rest.head? = cursor.rest.head?) :
    ∃ moved, (cursor.before rest).takeIf test = some ⟨(found, (cursor.before rest).skip), moved⟩ := by
  obtain ⟨tokens, nesting, finish⟩ := cursor
  cases tokens with
  | nil => cases takes
  | cons next others =>
      obtain ⟨more, rfl⟩ := List.head?_eq_some_iff.mp same
      obtain ⟨_, passes, same⟩ := Option.map_eq_some_iff.mp takes
      cases same
      refine ⟨Nat.lt_succ_self _, ?_⟩
      simp [takeIf, before, skip, passes]

theorem eq_skip_of_takeIf {found : α} {moved : taken.rest.length < cursor.rest.length}
    (takes : cursor.takeIf test = some ⟨(found, taken), moved⟩) : taken = cursor.skip := by
  obtain ⟨_, same⟩ := takeIf_before_eq_some takes (Eq.refl cursor.rest.head?)
  have equal := takes.symm.trans same
  cases equal
  rfl

end Cursor

namespace Parser

variable {α β : Type}

/-- A step that depends on nothing behind the token at which it ends: where it succeeds this is the
token that is left, and where a token is misplaced it is that one. -/
inductive Local (step : Cursor → Except SyntaxError (α × Cursor)) (start : Cursor) : Prop
  | reads (x : α) (after : Cursor) (front : List Located) (split : start.rest = front ++ after.rest)
      (same : ∀ rest, rest.head? = after.rest.head? →
        step (start.before (front ++ rest)) = .ok (x, after.before rest))
  | stumbles (front : List Located) (next : Located) (rest : List Located) (cause : SyntaxError)
      (split : start.rest = front ++ next :: rest)
      (here : ∃ expected found, cause = .unexpectedToken next.start expected found)
      (same : ∀ rest, step (start.before (front ++ next :: rest)) = .error cause)
  | fails {cause : SyntaxError} (failed : step start = .error cause)
      (other : ∀ place expected found, cause ≠ .unexpectedToken place expected found)

theorem of_landed {p : α × Cursor → Prop} {step : Except SyntaxError { found : α × Cursor // p found }}
    {found : α × Cursor} (read : landed step = .ok found) : p found := by
  cases step with
  | error cause => cases read
  | ok result =>
      cases read
      exact result.property

namespace Local

variable {step other : Cursor → Except SyntaxError (α × Cursor)} {start : Cursor}

theorem congr (own : Local step start)
    (same : ∀ rest, rest.head? = start.rest.head? →
      other (start.before rest) = step (start.before rest)) : Local other start := by
  cases own with
  | reads x after front split reads =>
      refine .reads x after front split fun rest next => ?_
      rw [same _ (by simp [split, List.head?_append, next])]
      exact reads rest next
  | stumbles front next rest cause split here stumbles =>
      refine .stumbles front next rest cause split here fun rest => ?_
      rw [same _ (by simp [split, List.head?_append])]
      exact stumbles rest
  | fails failed plain => exact .fails ((same start.rest rfl).trans failed) plain

theorem bind {next : α × Cursor → Except SyntaxError (β × Cursor)} (own : Local step start)
    (further : ∀ x after, step start = .ok (x, after) → Local (fun cursor => next (x, cursor)) after) :
    Local (fun cursor => step cursor >>= next) start := by
  cases own with
  | reads x after front split reads =>
      have found : step start = .ok (x, after) := by
        have own := reads after.rest rfl
        rwa [← split] at own
      have behind (rest : List Located) (same : rest.head? = after.rest.head?) :
          (step (start.before (front ++ rest)) >>= next) = next (x, after.before rest) := by
        rw [reads rest same]
        rfl
      cases further x after found with
      | reads y ended more split' ends =>
          refine .reads y ended (front ++ more) ?_ fun rest same => ?_
          · rw [split, split', List.append_assoc]
          · rw [List.append_assoc, behind _ (by simp [split', List.head?_append, same])]
            exact ends rest same
      | stumbles more token rest cause split' here stumbles =>
          refine .stumbles (front ++ more) token rest cause ?_ here fun rest => ?_
          · rw [split, split', List.append_assoc]
          · rw [List.append_assoc, behind _ (by simp [split', List.head?_append])]
            exact stumbles rest
      | fails failed plain =>
          refine .fails ?_ plain
          rw [found]
          exact failed
  | stumbles front token rest cause split here stumbles =>
      refine .stumbles front token rest cause split here fun rest => ?_
      rw [stumbles rest]
      rfl
  | fails failed plain =>
      refine .fails ?_ plain
      rw [failed]
      rfl

theorem done (x : α) (start : Cursor) : Local (fun cursor => .ok (x, cursor)) start :=
  .reads x start [] rfl fun _ _ => rfl

theorem leave (x : α) (levels : Nat) (start : Cursor) :
    Local (fun cursor => .ok (x, cursor.leave levels)) start :=
  .reads x (start.leave levels) [] rfl fun _ _ => rfl

theorem unexpected (expected : Expectation) (start : Cursor) :
    Local (fun cursor => (cursor.unexpected expected : Except SyntaxError (α × Cursor))) start := by
  obtain ⟨rest, nesting, finish⟩ := start
  cases rest with
  | nil => exact .fails rfl (by simp)
  | cons next rest => exact .stumbles [] next rest _ rfl ⟨_, _, rfl⟩ fun _ => rfl

theorem guarded (inside : Local step start) :
    Local (fun cursor => Parser.guarded cursor (step cursor)) start := by
  by_cases deep : nestingLimit < start.nesting + 1
  · exact .fails (if_pos deep) (by simp)
  · exact inside.congr fun rest _ => if_neg deep

theorem deeper (inside : Local step start.deeper) : Local (fun cursor => step cursor.deeper) start := by
  cases inside with
  | reads x after front split reads => exact .reads x after front split reads
  | stumbles front next rest cause split here stumbles =>
      exact .stumbles front next rest cause split here stumbles
  | fails failed plain => exact .fails failed plain

theorem skip (inside : Local step start.skip) (some : start.rest ≠ []) :
    Local (fun cursor => step cursor.skip) start := by
  obtain ⟨first, others, given⟩ := List.exists_cons_of_ne_nil some
  have behind : start.skip.rest = others := congrArg List.tail given
  cases inside with
  | reads x after front split reads =>
      exact .reads x after (first :: front) (by rw [given, ← behind, split]; rfl) reads
  | stumbles front next rest cause split here stumbles =>
      refine .stumbles (first :: front) next rest cause ?_ here stumbles
      rw [given, ← behind, split]
      rfl
  | fails failed plain => exact .fails failed plain

section

variable {test : Token → Option β} {found : β} {taken : Cursor}
  {moved : taken.rest.length < start.rest.length}

theorem taking (takes : start.takeIf test = some ⟨(found, taken), moved⟩) (inside : Local step taken)
    (opens : ∀ rest taken moved, (start.before rest).takeIf test = some ⟨(found, taken), moved⟩ →
      other (start.before rest) = step taken) : Local other start := by
  have some : start.rest ≠ [] := by
    intro empty
    rw [empty] at moved
    exact Nat.not_lt_zero _ moved
  rw [Cursor.eq_skip_of_takeIf takes] at inside
  refine (inside.skip some).congr fun rest same => ?_
  obtain ⟨_, next⟩ := Cursor.takeIf_before_eq_some takes same
  exact opens _ _ _ next

theorem guardedTaking (takes : start.takeIf test = some ⟨(found, taken), moved⟩)
    (inside : Local step taken)
    (opens : ∀ rest taken moved, (start.before rest).takeIf test = some ⟨(found, taken), moved⟩ →
      other (start.before rest) = Parser.guarded (start.before rest) (step taken)) :
    Local other start := by
  by_cases deep : nestingLimit < start.nesting + 1
  · exact .fails ((opens start.rest taken moved takes).trans (if_pos deep)) (by simp)
  · exact taking takes inside fun rest taken moved next =>
      (opens rest taken moved next).trans (if_neg deep)

end

theorem missing {test : Token → Option β} (ends : start.takeIf test = none) (inside : Local step start)
    (opens : ∀ rest, (start.before rest).takeIf test = none →
      other (start.before rest) = step (start.before rest)) : Local other start :=
  inside.congr fun rest same => opens rest (Cursor.takeIf_before_eq_none ends same)

end Local

theorem required_local (test : Token → Option α) (expected : Expectation) (start : Cursor) :
    Local (required test expected) start := by
  cases next : start.takeIf test with
  | none => exact .missing next (.unexpected expected start) fun _ ends => required_stop expected ends
  | some taken =>
      obtain ⟨⟨found, taken⟩, moved⟩ := taken
      exact .taking next (.done found taken) fun _ _ _ takes => required_take expected takes

theorem expect_local (mark : Symbol) (start : Cursor) :
    Local (fun cursor => landed (cursor.expect mark)) start := by
  simp only [landed_expect]
  exact required_local _ _ start

theorem property_local (start : Cursor) : Local (fun cursor => landed (property cursor)) start := by
  simp only [landed_property]
  exact required_local _ _ start

structure Locals (size : Nat) : Prop where
  expression : ∀ cursor, cursor.rest.length < size →
    Local (fun cursor => landed (expression cursor)) cursor
  binary : ∀ level cursor, cursor.rest.length < size →
    Local (fun cursor => landed (binary level cursor)) cursor
  chain : ∀ tighter left opened cursor, cursor.rest.length < size →
    Local (fun cursor => landed (chain tighter left opened cursor)) cursor
  unary : ∀ cursor, cursor.rest.length < size → Local (fun cursor => landed (unary cursor)) cursor
  suffixes : ∀ object opened cursor, cursor.rest.length < size →
    Local (fun cursor => landed (suffixes object opened cursor)) cursor
  listed : ∀ close cursor, cursor.rest.length < size →
    Local (fun cursor => landed (listed close cursor)) cursor

theorem Locals.mono {a b : Nat} (locals : Locals a) (le : b ≤ a) : Locals b where
  expression cursor less := locals.expression cursor (Nat.lt_of_lt_of_le less le)
  binary level cursor less := locals.binary level cursor (Nat.lt_of_lt_of_le less le)
  chain tighter left opened cursor less :=
    locals.chain tighter left opened cursor (Nat.lt_of_lt_of_le less le)
  unary cursor less := locals.unary cursor (Nat.lt_of_lt_of_le less le)
  suffixes object opened cursor less :=
    locals.suffixes object opened cursor (Nat.lt_of_lt_of_le less le)
  listed close cursor less := locals.listed close cursor (Nat.lt_of_lt_of_le less le)

section

variable {cursor : Cursor} (below : Locals cursor.rest.length)

include below

theorem primary_local : Local (fun cursor => landed (primary cursor)) cursor := by
  cases next : cursor.takeIf openingOf with
  | none => exact .missing next (.unexpected .expression cursor) fun _ ends => primary_stop ends
  | some taken =>
      obtain ⟨⟨opening, taken⟩, moved⟩ := taken
      cases opening with
      | whole expr => exact .taking next (.done expr taken) fun _ _ _ takes => primary_whole takes
      | badNumber digits =>
          obtain ⟨rest, nesting, finish⟩ := cursor
          cases rest with
          | nil => cases next
          | cons first others =>
              have here : ∃ expected found, SyntaxError.unexpectedToken first.start .number digits =
                  .unexpectedToken first.start expected found := ⟨_, _, rfl⟩
              refine .stumbles [] first others _ rfl here fun rest => ?_
              obtain ⟨_, takes⟩ := @Cursor.takeIf_before_eq_some _ _ _ _ (first :: rest) _ _ next rfl
              exact primary_badNumber takes
      | parenthesis =>
          refine .taking next ?_ fun _ _ _ takes => primary_parenthesis takes
          refine (below.expression taken moved).bind fun expr closing _ => ?_
          exact (expect_local .closeParen closing).bind fun _ after _ => Local.done expr after
      | bracket =>
          refine .taking next ?_ fun _ _ _ takes => primary_bracket takes
          exact (below.listed .closeBracket taken moved).bind fun items after _ =>
            Local.done (Expr.array items) after

theorem operand_local : Local (fun cursor => landed (operand cursor)) cursor := by
  simp only [operand_step]
  refine (primary_local below).bind fun expr after read => ?_
  exact below.suffixes expr 0 after (of_landed read)

theorem unary_local : Local (fun cursor => landed (unary cursor)) cursor := by
  cases next : cursor.takeIf unaryOf with
  | none => exact .missing next (operand_local below) fun _ ends => unary_stop ends
  | some taken =>
      obtain ⟨⟨operator, taken⟩, moved⟩ := taken
      refine .taking next ?_ fun _ _ _ takes => unary_step takes
      have inside : Local (fun cursor => landed (unary cursor) >>= fun read =>
          .ok (Expr.unary operator read.1, read.2.leave 1)) taken.deeper :=
        (below.unary taken.deeper moved).bind fun inner after _ =>
          .leave (Expr.unary operator inner) 1 after
      exact .guarded (.deeper inside)

theorem binary_local (level : Nat) : Local (fun cursor => landed (binary level cursor)) cursor := by
  induction level with
  | zero =>
      simp only [binary_zero]
      exact unary_local below
  | succ level ih =>
      simp only [binary_succ]
      exact ih.bind fun left after read => below.chain level left 0 after (of_landed read)

theorem conditional_local : Local (fun cursor => landed (conditional cursor)) cursor := by
  simp only [conditional_step]
  refine (binary_local below loosest).bind fun test tested read => ?_
  have short : tested.rest.length < cursor.rest.length := of_landed read
  cases next : tested.take .question with
  | none =>
      refine .missing next (.done test tested) fun cursor ends => ?_
      dsimp only
      rw [Cursor.take, ends]
      rfl
  | some taken =>
      obtain ⟨⟨nothing, asked⟩, moved⟩ := taken
      have less : asked.rest.length < tested.rest.length := moved
      have inside : Local (fun asked => landed (expression asked) >>= fun chosen =>
          landed (chosen.2.expect .colon) >>= fun parted => landed (expression parted.2) >>= fun last =>
          .ok (Expr.conditional test chosen.1 last.1, last.2)) asked := by
        refine (below.expression asked (by omega)).bind fun consequent chosen first => ?_
        have chosen_less : chosen.rest.length < asked.rest.length := of_landed first
        dsimp only
        refine (expect_local .colon chosen).bind fun _ parted second => ?_
        have parted_less : parted.rest.length < chosen.rest.length := of_landed second
        exact (below.expression parted (by omega)).bind fun alternative after _ =>
          .done (Expr.conditional test consequent alternative) after
      refine .taking next inside fun cursor taken moved takes => ?_
      dsimp only
      rw [Cursor.take, takes]
      exact congrArg (landed (expression taken) >>= ·) (funext fun _ => rfl)

theorem expression_local : Local (fun cursor => landed (expression cursor)) cursor := by
  simp only [expression_step]
  have below : Locals cursor.deeper.rest.length := below
  have inside : Local (fun cursor => landed (conditional cursor) >>= fun read =>
      .ok (read.1, read.2.leave 1)) cursor.deeper :=
    (conditional_local below).bind fun expr after _ => .leave expr 1 after
  exact .guarded (.deeper inside)

theorem chain_local (tighter : Nat) (left : Expr) (opened : Nat) :
    Local (fun cursor => landed (chain tighter left opened cursor)) cursor := by
  cases next : cursor.takeIf (binaryOf (tighter + 1)) with
  | none => exact .missing next (.leave left opened cursor) fun _ ends => chain_stop left opened ends
  | some taken =>
      obtain ⟨⟨operator, taken⟩, moved⟩ := taken
      have less : taken.rest.length < cursor.rest.length := moved
      have inside : Local (fun cursor => landed (binary tighter cursor) >>= fun read =>
          landed (chain tighter (.binary operator left read.1) (opened + 1) read.2)) taken.deeper := by
        refine (below.binary tighter taken.deeper less).bind fun right after read => ?_
        have shorter : after.rest.length < taken.rest.length := of_landed read
        exact below.chain tighter (.binary operator left right) (opened + 1) after (by omega)
      exact .taking next (.guarded (.deeper inside)) fun _ _ _ takes => chain_step left opened takes

theorem suffixes_local (object : Expr) (opened : Nat) :
    Local (fun cursor => landed (suffixes object opened cursor)) cursor := by
  cases next : cursor.takeIf suffixOf with
  | none => exact .missing next (.leave object opened cursor) fun _ ends =>
      suffixes_stop object opened ends
  | some taken =>
      obtain ⟨⟨suffix, taken⟩, moved⟩ := taken
      have less : taken.rest.length < cursor.rest.length := moved
      have further (object : Expr) (after : Cursor) (shorter : after.rest.length < taken.rest.length) :
          Local (fun cursor => landed (suffixes object (opened + 1) cursor)) after :=
        below.suffixes object (opened + 1) after (by omega)
      cases suffix with
      | member =>
          have inside : Local (fun cursor => landed (property cursor) >>= fun read =>
              landed (suffixes (.member object read.1) (opened + 1) read.2)) taken.deeper :=
            (property_local taken.deeper).bind fun name after read =>
              further (.member object name) after (of_landed read)
          exact .guardedTaking next inside.deeper fun _ _ _ takes => suffixes_member object opened takes
      | index =>
          have inside : Local (fun cursor => landed (expression cursor) >>= fun key =>
              landed (key.2.expect .closeBracket) >>= fun closed =>
              landed (suffixes (.index object key.1) (opened + 1) closed.2)) taken.deeper := by
            refine (below.expression taken.deeper less).bind fun key closing first => ?_
            have first_less : closing.rest.length < taken.rest.length := of_landed first
            dsimp only
            refine (expect_local .closeBracket closing).bind fun _ after second => ?_
            have second_less : after.rest.length < closing.rest.length := of_landed second
            exact further (.index object key) after (by omega)
          exact .guardedTaking next inside.deeper fun _ _ _ takes => suffixes_index object opened takes
      | call =>
          have inside : Local (fun cursor => landed (listed .closeParen cursor) >>= fun read =>
              landed (suffixes (.call object read.1) (opened + 1) read.2)) taken.deeper :=
            (below.listed .closeParen taken.deeper less).bind fun arguments after read =>
              further (.call object arguments) after (of_landed read)
          exact .guardedTaking next inside.deeper fun _ _ _ takes => suffixes_call object opened takes

theorem listed_local (close : Symbol) : Local (fun cursor => landed (listed close cursor)) cursor := by
  cases next : cursor.take close with
  | some taken =>
      obtain ⟨⟨nothing, after⟩, moved⟩ := taken
      exact .taking next (.done [] after) fun _ _ _ takes => listed_close takes
  | none =>
      cases given : cursor.rest with
      | nil =>
          have empty : cursor.rest.isEmpty = true := by rw [given]; rfl
          have failed : landed (listed close cursor) = .error (.unexpectedEnd cursor.finish) := by
            rw [listed_step next, if_pos empty]
          exact .fails failed (by simp)
      | cons first others =>
          -- a comma behind the item decides how the list goes on, and either way is a step
          have inside : Local (fun cursor => landed (expression cursor) >>= fun item =>
              (item.2.take .comma).elim
                (landed (item.2.expect close) >>= fun closed => .ok ([item.1], closed.2))
                fun found => landed (listed close found.1.2) >>= fun others =>
                  .ok (item.1 :: others.1, others.2)) cursor := by
            refine (expression_local below).bind fun item parted read => ?_
            have less : parted.rest.length < cursor.rest.length := of_landed read
            cases comma : parted.take .comma with
            | none =>
                have closed : Local (fun cursor => landed (cursor.expect close) >>= fun closed =>
                    .ok ([item], closed.2)) parted :=
                  (expect_local close parted).bind fun _ after _ => .done [item] after
                refine .missing comma closed fun rest ends => ?_
                dsimp only
                rw [Cursor.take, ends]
                rfl
            | some taken =>
                obtain ⟨⟨nothing, next⟩, moved⟩ := taken
                have shorter : next.rest.length < parted.rest.length := moved
                have listed : Local (fun cursor => landed (listed close cursor) >>= fun others =>
                    .ok (item :: others.1, others.2)) next :=
                  (below.listed close next (by omega)).bind fun items after _ => .done (item :: items) after
                refine .taking comma listed fun rest taken moved takes => ?_
                dsimp only
                rw [Cursor.take, takes]
                rfl
          refine inside.congr fun rest same => ?_
          have ends : (cursor.before rest).take close = none :=
            Cursor.takeIf_before_eq_none next same
          have filled : ¬ (cursor.before rest).rest.isEmpty = true := by
            rw [given] at same
            obtain ⟨more, rfl⟩ := List.head?_eq_some_iff.mp same
            exact Bool.false_ne_true
          rw [listed_step ends, if_neg filled]
          refine congrArg (landed (expression (cursor.before rest)) >>= ·) (funext fun item => ?_)
          dsimp only
          cases item.2.take .comma <;> rfl

end

/-- Every step looks one token ahead only. -/
theorem locals (size : Nat) : Locals size := by
  induction size with
  | zero => constructor <;> (intros; omega)
  | succ size ih =>
      have below {cursor : Cursor} (less : cursor.rest.length < size + 1) :
          Locals cursor.rest.length := ih.mono (Nat.lt_succ_iff.mp less)
      exact
        { expression := fun cursor less => expression_local (below less)
          binary := fun level cursor less => binary_local (below less) level
          chain := fun tighter left opened cursor less => chain_local (below less) tighter left opened
          unary := fun cursor less => unary_local (below less)
          suffixes := fun object opened cursor less => suffixes_local (below less) object opened
          listed := fun close cursor less => listed_local (below less) close }

theorem whole_stumbles {finish : Nat} {tokens : List Located} {place : Nat} {expected : Expectation}
    {found : String} (failed : whole finish tokens = .error (.unexpectedToken place expected found)) :
    ∃ front next rest, tokens = front ++ next :: rest ∧ next.start = place ∧
      ∀ rest, whole finish (front ++ next :: rest) = .error (.unexpectedToken place expected found) := by
  cases (locals _).expression ⟨tokens, 0, finish⟩ (Nat.lt_succ_self _) with
  | reads expr after front split reads =>
      have found : landed (expression ⟨tokens, 0, finish⟩) = .ok (expr, after) := by
        have own := reads after.rest rfl
        rwa [← split] at own
      rw [whole_of_expression found] at failed
      cases behind : after.rest with
      | nil =>
          rw [behind] at failed
          cases failed
      | cons next rest =>
          rw [behind] at failed split
          have stumbles : (after.unexpected .endOfExpression : Except SyntaxError Expr) =
              .error (.unexpectedToken next.start .endOfExpression next.token.description) := by
            rw [Cursor.unexpected, behind]
          have same := failed.symm.trans stumbles
          cases same
          refine ⟨front, next, rest, split, rfl, fun rest => ?_⟩
          have longer := reads (next :: rest) (by rw [behind]; rfl)
          rw [whole_of_expression longer]
          rfl
  | stumbles front next rest cause split here stumbles =>
      obtain ⟨expected', found', rfl⟩ := here
      have broken (rest : List Located) : whole finish (front ++ next :: rest) =
          .error (.unexpectedToken next.start expected' found') := by
        have stops : landed (expression ⟨front ++ next :: rest, 0, finish⟩) = _ := stumbles rest
        rw [whole_step, stops]
        rfl
      obtain rfl : tokens = front ++ next :: rest := split
      cases failed.symm.trans (broken rest)
      exact ⟨front, next, rest, rfl, rfl, broken⟩
  | fails stops plain =>
      rw [whole_step, stops] at failed
      cases failed
      exact absurd rfl (plain place expected found)

end Parser

end MarkupTree
