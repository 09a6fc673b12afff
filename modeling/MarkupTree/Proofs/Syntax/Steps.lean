import MarkupTree.Expr.Parser

/-!
The steps of the parser without the proofs that they carry: what a step finds and where it ends.
There is one equation for each way that a step can go.
-/

namespace MarkupTree

def Cursor.deeper (cursor : Cursor) : Cursor := { cursor with nesting := cursor.nesting + 1 }

namespace Parser

variable {α β : Type} {p : α × Cursor → Prop} {q : β × Cursor → Prop}

def landed (step : Except SyntaxError { found : α × Cursor // p found }) :
    Except SyntaxError (α × Cursor) :=
  step.map Subtype.val

def guarded (cursor : Cursor) (step : Except SyntaxError β) : Except SyntaxError β :=
  if nestingLimit < cursor.nesting + 1 then .error (.tooDeep cursor.position) else step

theorem landed_bind {step : Except SyntaxError { found : α × Cursor // p found }}
    {next : { found : α × Cursor // p found } → Except SyntaxError { found : β × Cursor // q found }}
    {further : α × Cursor → Except SyntaxError (β × Cursor)}
    (same : ∀ found, landed (next found) = further found.val) :
    landed (step >>= next) = landed step >>= further := by
  cases step with
  | error cause => rfl
  | ok found => exact same found

theorem landed_last {p q : α × Cursor → Prop}
    {step : Except SyntaxError { found : α × Cursor // p found }}
    {next : { found : α × Cursor // p found } → Except SyntaxError { found : α × Cursor // q found }}
    (same : ∀ found, landed (next found) = .ok found.val) :
    landed (step >>= next) = landed step :=
  (landed_bind same).trans (bind_pure (landed step))

theorem landed_enter (cursor : Cursor)
    (next : { inside : Cursor // inside.rest = cursor.rest } →
      Except SyntaxError { found : β × Cursor // q found }) :
    landed (cursor.enter >>= next) = guarded cursor (landed (next ⟨cursor.deeper, rfl⟩)) := by
  unfold Cursor.enter guarded
  by_cases deep : nestingLimit < cursor.nesting + 1
  · simp only [deep, if_true]
    rfl
  · simp only [deep, if_false]
    rfl

theorem landed_unexpected (cursor : Cursor) (expected : Expectation) :
    landed (cursor.unexpected expected : Except SyntaxError { found : α × Cursor // p found }) =
      cursor.unexpected expected := by
  unfold Cursor.unexpected
  split <;> rfl

def required (test : Token → Option α) (expected : Expectation) (cursor : Cursor) :
    Except SyntaxError (α × Cursor) :=
  match cursor.takeIf test with
  | some taken => .ok taken.val
  | none => cursor.unexpected expected

theorem required_stop {test : Token → Option α} {cursor : Cursor} (expected : Expectation)
    (ends : cursor.takeIf test = none) :
    required test expected cursor = cursor.unexpected expected := by
  rw [required, ends]

theorem required_take {test : Token → Option α} {cursor : Cursor} {taken : cursor.Behind α}
    (expected : Expectation) (takes : cursor.takeIf test = some taken) :
    required test expected cursor = .ok taken.val := by
  rw [required, takes]

theorem landed_expect (cursor : Cursor) (mark : Symbol) :
    landed (cursor.expect mark) = required (Cursor.exactly mark) (.symbol mark) cursor := by
  cases next : cursor.takeIf (Cursor.exactly mark) with
  | none =>
      rw [Cursor.expect, Cursor.take, next, required_stop _ next]
      exact landed_unexpected cursor _
  | some taken =>
      rw [Cursor.expect, Cursor.take, next, required_take _ next]
      rfl

theorem landed_property (cursor : Cursor) :
    landed (property cursor) = required propertyOf .propertyName cursor := by
  cases next : cursor.takeIf propertyOf with
  | none =>
      rw [property, next, required_stop _ next]
      exact landed_unexpected cursor _
  | some taken =>
      rw [property, next, required_take _ next]
      rfl

theorem expression_step (cursor : Cursor) :
    landed (expression cursor) = guarded cursor (do
      let (expr, after) ← landed (conditional cursor.deeper)
      return (expr, after.leave 1)) := by
  rw [expression, landed_enter]
  congr 1
  exact landed_bind fun _ => rfl

theorem conditional_step (cursor : Cursor) :
    landed (conditional cursor) = (do
      let (test, tested) ← landed (binary loosest cursor)
      match tested.take .question with
      | none => return (test, tested)
      | some ⟨(_, asked), _⟩ => do
          let (consequent, chosen) ← landed (expression asked)
          let (_, parted) ← landed (chosen.expect .colon)
          let (alternative, after) ← landed (expression parted)
          return (.conditional test consequent alternative, after)) := by
  rw [conditional]
  refine landed_bind ?_
  rintro ⟨⟨test, tested⟩, testing⟩
  dsimp only
  cases tested.take .question with
  | none => rfl
  | some found =>
      refine landed_bind ?_
      rintro ⟨⟨consequent, chosen⟩, choosing⟩
      refine landed_bind ?_
      rintro ⟨⟨_, parted⟩, parting⟩
      exact landed_bind fun _ => rfl

theorem binary_zero (cursor : Cursor) : landed (binary 0 cursor) = landed (unary cursor) := by
  rw [binary]

theorem binary_succ (tighter : Nat) (cursor : Cursor) :
    landed (binary (tighter + 1) cursor) = (do
      let (left, after) ← landed (binary tighter cursor)
      landed (chain tighter left 0 after)) := by
  rw [binary]
  refine landed_bind ?_
  rintro ⟨⟨left, after⟩, moved⟩
  exact landed_last fun _ => rfl

theorem chain_stop {tighter : Nat} {cursor : Cursor} (left : Expr) (opened : Nat)
    (ends : cursor.takeIf (binaryOf (tighter + 1)) = none) :
    landed (chain tighter left opened cursor) = .ok (left, cursor.leave opened) := by
  rw [chain, ends]
  rfl

theorem chain_step {tighter : Nat} {cursor taken : Cursor} {operator : BinaryOperator}
    {taking : taken.rest.length < cursor.rest.length} (left : Expr) (opened : Nat)
    (next : cursor.takeIf (binaryOf (tighter + 1)) = some ⟨(operator, taken), taking⟩) :
    landed (chain tighter left opened cursor) = guarded taken (do
      let (right, after) ← landed (binary tighter taken.deeper)
      landed (chain tighter (.binary operator left right) (opened + 1) after)) := by
  rw [chain, next]
  dsimp only
  rw [landed_enter]
  congr 1
  refine landed_bind ?_
  rintro ⟨⟨right, after⟩, moved⟩
  exact landed_last fun _ => rfl

theorem unary_stop {cursor : Cursor} (ends : cursor.takeIf unaryOf = none) :
    landed (unary cursor) = landed (operand cursor) := by
  rw [unary, ends]

theorem unary_step {cursor taken : Cursor} {operator : UnaryOperator}
    {taking : taken.rest.length < cursor.rest.length}
    (next : cursor.takeIf unaryOf = some ⟨(operator, taken), taking⟩) :
    landed (unary cursor) = guarded taken (do
      let (inner, after) ← landed (unary taken.deeper)
      return (.unary operator inner, after.leave 1)) := by
  rw [unary, next]
  dsimp only
  rw [landed_enter]
  congr 1
  exact landed_bind fun _ => rfl

theorem operand_step (cursor : Cursor) :
    landed (operand cursor) = (do
      let (expr, after) ← landed (primary cursor)
      landed (suffixes expr 0 after)) := by
  rw [operand]
  refine landed_bind ?_
  rintro ⟨⟨expr, after⟩, moved⟩
  exact landed_last fun _ => rfl

theorem suffixes_stop {cursor : Cursor} (object : Expr) (opened : Nat)
    (ends : cursor.takeIf suffixOf = none) :
    landed (suffixes object opened cursor) = .ok (object, cursor.leave opened) := by
  rw [suffixes, ends]
  rfl

theorem suffixes_member {cursor taken : Cursor} {taking : taken.rest.length < cursor.rest.length}
    (object : Expr) (opened : Nat)
    (next : cursor.takeIf suffixOf = some ⟨(.member, taken), taking⟩) :
    landed (suffixes object opened cursor) = guarded cursor (do
      let (name, after) ← landed (property taken.deeper)
      landed (suffixes (.member object name) (opened + 1) after)) := by
  rw [suffixes, next]
  dsimp only
  rw [landed_enter]
  congr 1
  refine landed_bind ?_
  rintro ⟨⟨name, after⟩, moved⟩
  exact landed_last fun _ => rfl

theorem suffixes_index {cursor taken : Cursor} {taking : taken.rest.length < cursor.rest.length}
    (object : Expr) (opened : Nat)
    (next : cursor.takeIf suffixOf = some ⟨(.index, taken), taking⟩) :
    landed (suffixes object opened cursor) = guarded cursor (do
      let (key, closing) ← landed (expression taken.deeper)
      let (_, after) ← landed (closing.expect .closeBracket)
      landed (suffixes (.index object key) (opened + 1) after)) := by
  rw [suffixes, next]
  dsimp only
  rw [landed_enter]
  congr 1
  refine landed_bind ?_
  rintro ⟨⟨key, closing⟩, moved⟩
  refine landed_bind ?_
  rintro ⟨⟨_, after⟩, closed⟩
  exact landed_last fun _ => rfl

theorem suffixes_call {cursor taken : Cursor} {taking : taken.rest.length < cursor.rest.length}
    (object : Expr) (opened : Nat)
    (next : cursor.takeIf suffixOf = some ⟨(.call, taken), taking⟩) :
    landed (suffixes object opened cursor) = guarded cursor (do
      let (arguments, after) ← landed (listed .closeParen taken.deeper)
      landed (suffixes (.call object arguments) (opened + 1) after)) := by
  rw [suffixes, next]
  dsimp only
  rw [landed_enter]
  congr 1
  refine landed_bind ?_
  rintro ⟨⟨arguments, after⟩, moved⟩
  exact landed_last fun _ => rfl

theorem primary_stop {cursor : Cursor} (ends : cursor.takeIf openingOf = none) :
    landed (primary cursor) = cursor.unexpected .expression := by
  rw [primary, ends]
  exact landed_unexpected cursor _

theorem primary_whole {cursor taken : Cursor} {taking : taken.rest.length < cursor.rest.length}
    {expr : Expr} (next : cursor.takeIf openingOf = some ⟨(.whole expr, taken), taking⟩) :
    landed (primary cursor) = .ok (expr, taken) := by
  rw [primary, next]
  rfl

theorem primary_badNumber {cursor taken : Cursor} {taking : taken.rest.length < cursor.rest.length}
    {digits : String} (next : cursor.takeIf openingOf = some ⟨(.badNumber digits, taken), taking⟩) :
    landed (primary cursor) = .error (.unexpectedToken cursor.position .number digits) := by
  rw [primary, next]
  rfl

theorem primary_parenthesis {cursor taken : Cursor}
    {taking : taken.rest.length < cursor.rest.length}
    (next : cursor.takeIf openingOf = some ⟨(.parenthesis, taken), taking⟩) :
    landed (primary cursor) = (do
      let (expr, closing) ← landed (expression taken)
      let (_, after) ← landed (closing.expect .closeParen)
      return (expr, after)) := by
  rw [primary, next]
  refine landed_bind ?_
  rintro ⟨⟨expr, closing⟩, moved⟩
  exact landed_bind fun _ => rfl

theorem primary_bracket {cursor taken : Cursor} {taking : taken.rest.length < cursor.rest.length}
    (next : cursor.takeIf openingOf = some ⟨(.bracket, taken), taking⟩) :
    landed (primary cursor) = (do
      let (items, after) ← landed (listed .closeBracket taken)
      return (.array items, after)) := by
  rw [primary, next]
  exact landed_bind fun _ => rfl

theorem listed_close {close : Symbol} {cursor after : Cursor}
    {moved : after.rest.length < cursor.rest.length}
    (next : cursor.take close = some ⟨((), after), moved⟩) :
    landed (listed close cursor) = .ok ([], after) := by
  rw [listed, next]
  rfl

theorem listed_step {close : Symbol} {cursor : Cursor} (opens : cursor.take close = none) :
    landed (listed close cursor) =
      if cursor.rest.isEmpty then .error (.unexpectedEnd cursor.finish)
      else do
        let (item, parted) ← landed (expression cursor)
        match parted.take .comma with
        | some ⟨(_, next), _⟩ => do
            let (items, after) ← landed (listed close next)
            return (item :: items, after)
        | none => do
            let (_, after) ← landed (parted.expect close)
            return ([item], after) := by
  rw [listed, opens]
  dsimp only
  split
  · rfl
  · refine landed_bind ?_
    rintro ⟨⟨item, parted⟩, moved⟩
    dsimp only
    cases parted.take .comma with
    | some found => exact landed_bind fun _ => rfl
    | none => exact landed_bind fun _ => rfl

theorem whole_step (finish : Nat) (tokens : List Located) :
    whole finish tokens = (do
      let (expr, after) ← landed (expression ⟨tokens, 0, finish⟩)
      match after.rest with
      | [] => return expr
      | _ :: _ => after.unexpected .endOfExpression) := by
  rw [whole]
  cases expression ⟨tokens, 0, finish⟩ with
  | error cause => rfl
  | ok found => rfl

end Parser

end MarkupTree
