import MarkupTree.Proofs.Syntax.Steps

/-!
The parser as plans. A routine of the parser opens levels of nesting and gives them back, calls other
routines and goes around its loop; its plan has these acts in their order, each with what is made of
its answer. Running a routine is carrying out its plan, and an act that fails ends it.
-/

namespace MarkupTree

namespace Parser

/-- The functions of the parser and the loops in them, each without the place where it starts. -/
inductive Routine where
  | expression
  | conditional
  | binary (level : Nat)
  | chain (tighter : Nat) (left : Expr) (opened : Nat)
  | unary
  | operand
  | suffixes (object : Expr) (opened : Nat)
  | primary
  | listed (close : Symbol)

namespace Routine

abbrev Tree : Routine → Type
  | .listed _ => List Expr
  | _ => Expr

def run : (routine : Routine) → Cursor → Except SyntaxError (routine.Tree × Cursor)
  | .expression, place => landed (Parser.expression place)
  | .conditional, place => landed (Parser.conditional place)
  | .binary level, place => landed (Parser.binary level place)
  | .chain tighter left opened, place => landed (Parser.chain tighter left opened place)
  | .unary, place => landed (Parser.unary place)
  | .operand, place => landed (Parser.operand place)
  | .suffixes object opened, place => landed (Parser.suffixes object opened place)
  | .primary, place => landed (Parser.primary place)
  | .listed close, place => landed (Parser.listed close place)

end Routine

inductive Act where
  | enter (place : Cursor)
  | leave (place : Cursor) (levels : Nat)
  | call (routine : Routine) (place : Cursor)
  /-- The same call goes on with its loop, or around it once more. -/
  | turn (routine : Routine) (place : Cursor)

namespace Act

abbrev Answer : Act → Type
  | .enter _ | .leave .. => Cursor
  | .call routine _ | .turn routine _ => routine.Tree × Cursor

def perform : (act : Act) → Except SyntaxError act.Answer
  | .enter place => guarded place (.ok place.deeper)
  | .leave place levels => .ok (place.leave levels)
  | .call routine place | .turn routine place => routine.run place

end Act

/-- Acts one after the other, up to a result. -/
inductive Plan (α : Type) where
  | done (result : Except SyntaxError α)
  | step (act : Act) (next : act.Answer → Plan α)

namespace Plan

variable {α β : Type}

def last (act : Act) : Plan act.Answer := .step act fun found => .done (.ok found)

def andThen (result : Except SyntaxError β) (next : β → Plan α) : Plan α :=
  match result with
  | .ok found => next found
  | .error cause => .done (.error cause)

def run : Plan α → Except SyntaxError α
  | .done result => result
  | .step act next => do
      let answer ← act.perform
      (next answer).run

/-- The acts that are come to: all before have had an answer. -/
def Does : Plan α → Act → Prop
  | .done _, _ => False
  | .step act next, other =>
      other = act ∨ ∃ answer, act.perform = .ok answer ∧ (next answer).Does other

/-- All acts that are come to are of a kind, and so is the result if they all have an answer. -/
def Yields (acts : Act → Prop) (ends : Except SyntaxError α → Prop) : Plan α → Prop
  | .done result => ends result
  | .step act next =>
      acts act ∧ ∀ answer, act.perform = .ok answer → (next answer).Yields acts ends

theorem run_andThen (result : Except SyntaxError β) (next : β → Plan α) :
    (andThen result next).run = result >>= fun found => (next found).run := by
  cases result <;> rfl

theorem Does.run_eq_error {plan : Plan α} {act : Act} {cause : SyntaxError} (does : plan.Does act)
    (fails : act.perform = .error cause) : plan.run = .error cause := by
  induction plan with
  | done result => exact does.elim
  | step first next ih =>
      rw [run]
      rcases does with rfl | ⟨answer, comes, later⟩
      · rw [fails]
        rfl
      · rw [comes]
        exact ih answer later

namespace Yields

variable {acts : Act → Prop} {ends : Except SyntaxError α → Prop} {plan : Plan α}

theorem andThen {result : Except SyntaxError β} {next : β → Plan α}
    (found : ∀ x, result = .ok x → (next x).Yields acts ends)
    (failed : ∀ cause, result = .error cause → ends (.error cause)) :
    (andThen result next).Yields acts ends := by
  cases result with
  | ok x => exact found x rfl
  | error cause => exact failed cause rfl

theorem of_does {act : Act} (yields : plan.Yields acts ends) (does : plan.Does act) : acts act := by
  induction plan with
  | done result => exact does.elim
  | step first next ih =>
      rcases does with rfl | ⟨answer, comes, later⟩
      · exact yields.1
      · exact ih answer (yields.2 answer comes) later

theorem run_cases (yields : plan.Yields acts ends) :
    ends plan.run ∨
      ∃ act cause, plan.Does act ∧ act.perform = .error cause ∧ plan.run = .error cause := by
  induction plan with
  | done result => exact .inl yields
  | step first next ih =>
      rw [run]
      cases comes : first.perform with
      | error cause => exact .inr ⟨first, cause, .inl rfl, comes, rfl⟩
      | ok answer =>
          rcases ih answer (yields.2 answer comes) with own | ⟨act, cause, does, fails, stops⟩
          · exact .inl own
          · exact .inr ⟨act, cause, .inr ⟨answer, comes, does⟩, fails, stops⟩

end Yields

end Plan

/-- What a routine does at a place. -/
def Routine.plan : (routine : Routine) → Cursor → Plan (routine.Tree × Cursor)
  | .expression, cursor =>
      .step (.enter cursor) fun inside =>
      .step (.call .conditional inside) fun (expr, after) =>
      .step (.leave after 1) fun ended => .done (.ok (expr, ended))
  | .conditional, cursor =>
      .step (.call (.binary loosest) cursor) fun (test, tested) =>
      match tested.take .question with
      | none => .done (.ok (test, tested))
      | some ⟨(_, asked), _⟩ =>
          .step (.call .expression asked) fun (consequent, chosen) =>
          .andThen (landed (chosen.expect .colon)) fun (_, parted) =>
          .step (.call .expression parted) fun (alternative, after) =>
          .done (.ok (.conditional test consequent alternative, after))
  | .binary 0, cursor => .last (.turn .unary cursor)
  | .binary (tighter + 1), cursor =>
      .step (.call (.binary tighter) cursor) fun (left, after) =>
      .last (.turn (.chain tighter left 0) after)
  | .chain tighter left opened, cursor =>
      match cursor.takeIf (binaryOf (tighter + 1)) with
      | none => .step (.leave cursor opened) fun ended => .done (.ok (left, ended))
      | some ⟨(operator, taken), _⟩ =>
          .step (.enter taken) fun inside =>
          .step (.call (.binary tighter) inside) fun (right, after) =>
          .last (.turn (.chain tighter (.binary operator left right) (opened + 1)) after)
  | .unary, cursor =>
      match cursor.takeIf unaryOf with
      | none => .last (.call .operand cursor)
      | some ⟨(operator, taken), _⟩ =>
          .step (.enter taken) fun inside =>
          .step (.call .unary inside) fun (inner, after) =>
          .step (.leave after 1) fun ended => .done (.ok (.unary operator inner, ended))
  | .operand, cursor =>
      .step (.call .primary cursor) fun (expr, after) =>
      .last (.turn (.suffixes expr 0) after)
  | .suffixes object opened, cursor =>
      match cursor.takeIf suffixOf with
      | none => .step (.leave cursor opened) fun ended => .done (.ok (object, ended))
      | some ⟨(suffix, taken), _⟩ =>
          -- The level is opened in front of the suffix, and read into behind its mark.
          .step (.enter cursor) fun _ =>
          match suffix with
          | .member =>
              .andThen (landed (property taken.deeper)) fun (name, after) =>
              .last (.turn (.suffixes (.member object name) (opened + 1)) after)
          | .index =>
              .step (.call .expression taken.deeper) fun (key, closing) =>
              .andThen (landed (closing.expect .closeBracket)) fun (_, after) =>
              .last (.turn (.suffixes (.index object key) (opened + 1)) after)
          | .call =>
              .step (.call (.listed .closeParen) taken.deeper) fun (arguments, after) =>
              .last (.turn (.suffixes (.call object arguments) (opened + 1)) after)
  | .primary, cursor =>
      match cursor.takeIf openingOf with
      | none => .done (cursor.unexpected .expression)
      | some ⟨(opening, taken), _⟩ =>
          match opening with
          | .whole expr => .done (.ok (expr, taken))
          | .badNumber digits => .done (.error (.unexpectedToken cursor.position .number digits))
          | .parenthesis =>
              .step (.call .expression taken) fun (expr, closing) =>
              .andThen (landed (closing.expect .closeParen)) fun (_, after) =>
              .done (.ok (expr, after))
          | .bracket =>
              .step (.call (.listed .closeBracket) taken) fun (items, after) =>
              .done (.ok (.array items, after))
  | .listed close, cursor =>
      match cursor.take close with
      | some ⟨(_, after), _⟩ => .done (.ok ([], after))
      | none =>
          if cursor.rest.isEmpty then .done (.error (.unexpectedEnd cursor.finish))
          else
            .step (.call .expression cursor) fun (item, parted) =>
            match parted.take .comma with
            | some ⟨(_, next), _⟩ =>
                .step (.turn (.listed close) next) fun (items, after) =>
                .done (.ok (item :: items, after))
            | none =>
                .andThen (landed (parted.expect close)) fun (_, after) => .done (.ok ([item], after))

theorem guarded_bind {α β : Type} (cursor : Cursor) (step : Except SyntaxError α)
    (next : α → Except SyntaxError β) :
    guarded cursor step >>= next = guarded cursor (step >>= next) := by
  unfold guarded
  split <;> rfl

theorem Plan.run_enter {α : Type} (cursor : Cursor) (next : Cursor → Plan α) :
    (Plan.step (.enter cursor) next).run = guarded cursor (next cursor.deeper).run :=
  guarded_bind cursor (.ok cursor.deeper) fun inside => (next inside).run

theorem Plan.run_last (act : Act) : (Plan.last act).run = act.perform := bind_pure act.perform

namespace Routine

/-! The routines that look at a token, one by one. -/

variable (cursor : Cursor)

theorem run_conditional : run .conditional cursor = (plan .conditional cursor).run := by
  apply (conditional_step cursor).trans
  apply bind_congr
  rintro ⟨test, tested⟩
  dsimp only
  cases tested.take .question with
  | none => rfl
  | some asked =>
      apply bind_congr
      rintro ⟨consequent, chosen⟩
      dsimp only
      rw [Plan.run_andThen]
      rfl

theorem run_chain (tighter : Nat) (left : Expr) (opened : Nat) :
    run (.chain tighter left opened) cursor = (plan (.chain tighter left opened) cursor).run := by
  rw [plan]
  cases next : cursor.takeIf (binaryOf (tighter + 1)) with
  | none => exact chain_stop left opened next
  | some taken =>
      apply (chain_step left opened next).trans
      rw [Plan.run_enter]
      apply congrArg (guarded _)
      apply bind_congr
      rintro ⟨right, after⟩
      exact (Plan.run_last (.turn (.chain tighter (.binary _ left right) (opened + 1)) after)).symm

theorem run_unary : run .unary cursor = (plan .unary cursor).run := by
  rw [plan]
  cases next : cursor.takeIf unaryOf with
  | none => exact (unary_stop next).trans (Plan.run_last (.call .operand cursor)).symm
  | some taken =>
      dsimp only
      rw [Plan.run_enter]
      exact unary_step next

theorem run_suffixes (object : Expr) (opened : Nat) :
    run (.suffixes object opened) cursor = (plan (.suffixes object opened) cursor).run := by
  rw [plan]
  cases next : cursor.takeIf suffixOf with
  | none => exact suffixes_stop object opened next
  | some taken =>
      obtain ⟨⟨suffix, taken⟩, moved⟩ := taken
      have goes_on (longer : Expr) (after : Cursor) :
          (Plan.last (.turn (.suffixes longer (opened + 1)) after)).run =
            landed (Parser.suffixes longer (opened + 1) after) := Plan.run_last _
      dsimp only
      rw [Plan.run_enter]
      cases suffix with
      | member =>
          apply (suffixes_member object opened next).trans
          apply congrArg (guarded cursor)
          dsimp only
          rw [Plan.run_andThen]
          apply bind_congr
          rintro ⟨name, after⟩
          exact (goes_on (.member object name) after).symm
      | index =>
          apply (suffixes_index object opened next).trans
          apply congrArg (guarded cursor)
          apply bind_congr
          rintro ⟨key, closing⟩
          dsimp only
          rw [Plan.run_andThen]
          apply bind_congr
          rintro ⟨_, after⟩
          exact (goes_on (.index object key) after).symm
      | call =>
          apply (suffixes_call object opened next).trans
          apply congrArg (guarded cursor)
          apply bind_congr
          rintro ⟨arguments, after⟩
          exact (goes_on (.call object arguments) after).symm

theorem run_primary : run .primary cursor = (plan .primary cursor).run := by
  rw [plan]
  cases next : cursor.takeIf openingOf with
  | none => exact primary_stop next
  | some taken =>
      obtain ⟨⟨opening, taken⟩, moved⟩ := taken
      cases opening with
      | whole expr => exact primary_whole next
      | badNumber digits => exact primary_badNumber next
      | parenthesis =>
          apply (primary_parenthesis next).trans
          apply bind_congr
          rintro ⟨expr, closing⟩
          dsimp only
          rw [Plan.run_andThen]
          rfl
      | bracket => exact primary_bracket next

theorem run_listed (close : Symbol) :
    run (.listed close) cursor = (plan (.listed close) cursor).run := by
  rw [plan]
  cases opens : cursor.take close with
  | some found => exact listed_close opens
  | none =>
      apply (listed_step opens).trans
      dsimp only
      split
      · rfl
      · apply bind_congr
        rintro ⟨item, parted⟩
        dsimp only
        cases parted.take .comma with
        | some found => rfl
        | none =>
            dsimp only
            rw [Plan.run_andThen]
            rfl

/-- Running a routine is carrying out its plan. -/
theorem run_eq_plan (routine : Routine) (cursor : Cursor) :
    routine.run cursor = (routine.plan cursor).run := by
  cases routine with
  | expression =>
      rw [plan, Plan.run_enter]
      exact expression_step cursor
  | conditional => exact run_conditional cursor
  | binary level =>
      cases level with
      | zero => exact (binary_zero cursor).trans (Plan.run_last (.turn .unary cursor)).symm
      | succ tighter =>
          apply (binary_succ tighter cursor).trans
          apply bind_congr
          rintro ⟨left, after⟩
          exact (Plan.run_last (.turn (.chain tighter left 0) after)).symm
  | chain tighter left opened => exact run_chain cursor tighter left opened
  | unary => exact run_unary cursor
  | operand =>
      apply (operand_step cursor).trans
      apply bind_congr
      rintro ⟨expr, after⟩
      exact (Plan.run_last (.turn (.suffixes expr 0) after)).symm
  | suffixes object opened => exact run_suffixes cursor object opened
  | primary => exact run_primary cursor
  | listed close => exact run_listed cursor close

end Routine

end Parser

end MarkupTree
