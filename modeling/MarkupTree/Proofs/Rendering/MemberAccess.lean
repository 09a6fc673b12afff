import MarkupTree.Proofs.Rendering.Paths
import MarkupTree.Proofs.Syntax.Lexemes
import MarkupTree.Proofs.Values.Walks

/-!
Properties of data. Evaluation looks up a chain of properties below a data identifier as one dotted
path. This changes nothing against taking one property after the other, because a name in a source
has no dot and is not empty, so that it is one segment of that path.
-/

namespace MarkupTree

namespace Scope

theorem lookup_append_label (scope : Scope) (path : String) {name : String}
    (label : Value.IsLabel name) :
    scope.lookup (path ++ "." ++ name) = (scope.lookup path).bind (·.get? name) := by
  have letters : (path ++ "." ++ name).toList = path.toList ++ '.' :: name.toList := by
    simp [String.toList_append]
  cases cut : Text.cut? '.' path.toList with
  | some parts =>
      obtain ⟨root, rest⟩ := parts
      have longer := Text.cut?_append_of_eq_some cut ('.' :: name.toList)
      have behind : String.ofList (rest ++ '.' :: name.toList) =
          String.ofList rest ++ "." ++ name := by
        apply String.toList_injective
        simp [String.toList_append]
      simp only [lookup, letters, longer, cut, behind]
      split_ifs <;> exact Value.lookupPath_append_label _ _ label
  | none =>
      have longer := Text.cut?_append_of_eq_none cut name.toList
      simp only [lookup, letters, longer, cut, String.ofList_toList]
      split_ifs
      · exact Value.lookupPath_label _ label
      · exact Value.lookupPath_label _ label
      · exact Value.lookupPath_append_label _ _ label
      · exact Value.lookupPath_append_label _ _ label

end Scope

namespace Expr

mutual

def Labelled : Expr → Prop
  | .literal _ | .undefined | .identifier _ => True
  | .member object name => object.Labelled ∧ Value.IsLabel name
  | .index object key => object.Labelled ∧ key.Labelled
  | .call callee arguments => callee.Labelled ∧ AllLabelled arguments
  | .unary _ operand => operand.Labelled
  | .binary _ left right => left.Labelled ∧ right.Labelled
  | .conditional test consequent alternative =>
      test.Labelled ∧ consequent.Labelled ∧ alternative.Labelled
  | .array items => AllLabelled items

def AllLabelled : List Expr → Prop
  | [] => True
  | item :: rest => item.Labelled ∧ AllLabelled rest

end

mutual

/-- The value of an expression, with every property taken from the value of its object. -/
def evaluateStepwise (scope : Scope) : Expr → Except ExprFault (Option Value)
  | .literal value => .ok (some value)
  | .undefined => .ok none
  | .identifier name => .ok (identifierValue scope name)
  | .member object name => do
      let object ← evaluateStepwise scope object
      return property object name
  | .index object key => do
      let object ← evaluateStepwise scope object
      let key ← evaluateStepwise scope key
      return (keyOf key).bind (property object)
  | .call callee arguments =>
      match calleeOf scope callee with
      | .render => do
          let target ← evaluateFirstStepwise scope arguments
          renderTarget scope target
      | .utility name utility => do
          let values ← evaluateAllStepwise scope arguments
          invoke scope name utility values
      | .nobody name => .error (.notCallable name)
  | .unary operator operand => do
      let operand ← evaluateStepwise scope operand
      return some (← Operand.unary operator operand)
  | .binary .and left right => do
      let left ← evaluateStepwise scope left
      if Operand.isTruthy left then evaluateStepwise scope right else return left
  | .binary .or left right => do
      let left ← evaluateStepwise scope left
      if Operand.isTruthy left then return left else evaluateStepwise scope right
  | .binary operator left right => do
      let left ← evaluateStepwise scope left
      let right ← evaluateStepwise scope right
      Operand.binary operator left right
  | .conditional test consequent alternative => do
      let test ← evaluateStepwise scope test
      if Operand.isTruthy test then evaluateStepwise scope consequent
      else evaluateStepwise scope alternative
  | .array items => do
      let values ← evaluateAllStepwise scope items
      return some (.array values)

def evaluateAllStepwise (scope : Scope) : List Expr → Except ExprFault (List Value)
  | [] => .ok []
  | item :: rest => do
      let value ← evaluateStepwise scope item
      let values ← evaluateAllStepwise scope rest
      return value.getD .null :: values

def evaluateFirstStepwise (scope : Scope) : List Expr → Except ExprFault (Option Value)
  | [] => .ok none
  | item :: _ => evaluateStepwise scope item

end

theorem evaluateStepwise_of_staticPath (scope : Scope) {expr : Expr} {path : String}
    (static : staticPath expr = some path) (labelled : expr.Labelled) :
    evaluateStepwise scope expr = .ok (scope.lookup path) := by
  induction expr using staticPath.induct generalizing path with
  | case1 name callOnly => simp [staticPath, callOnly] at static
  | case2 name data =>
      rw [← evaluate_of_staticPath static]
      rfl
  | case3 object name ih =>
      obtain ⟨own, label⟩ := labelled
      obtain ⟨inner, below, rfl⟩ := Option.map_eq_some_iff.mp static
      rw [evaluateStepwise, ih below own, scope.lookup_append_label inner label]
      rfl
  | case4 expr other dynamic => simp [staticPath] at static

/-- Looking up a path at a time makes no difference, whatever stands around it. -/
theorem evaluate_eq_evaluateStepwise (scope : Scope) :
    (∀ expr : Expr, expr.Labelled → evaluate scope expr = evaluateStepwise scope expr) ∧
      (∀ items, AllLabelled items → evaluateAll scope items = evaluateAllStepwise scope items) ∧
      ∀ items, AllLabelled items →
        evaluateFirst scope items = evaluateFirstStepwise scope items := by
  -- only the fourth case looks a path up at a time; the others ask the parts alike
  apply evaluate.mutual_induct scope
  case case1 | case2 | case3 => intros; rfl
  case case4 =>
    intro object name path static labelled
    rw [evaluateStepwise_of_staticPath scope static labelled, evaluate, static]
  case case5 =>
    intro object name dynamic below labelled
    simp only [evaluate, dynamic, evaluateStepwise, below labelled.1]
  case case6 =>
    intro object key own other labelled
    simp only [evaluate, evaluateStepwise, own labelled.1, other labelled.2]
  case case7 =>
    intro callee arguments called target labelled
    simp only [evaluate, evaluateStepwise, called, target labelled.2]
  case case8 =>
    intro callee arguments name utility called values labelled
    simp only [evaluate, evaluateStepwise, called, values labelled.2]
  case case9 =>
    intro callee arguments name called labelled
    simp only [evaluate, evaluateStepwise, called]
  case case10 =>
    intro operator operand own labelled
    simp only [evaluate, evaluateStepwise, own labelled]
  case case11 | case12 =>
    intro left right first second labelled
    simp only [evaluate, evaluateStepwise, first labelled.1, second labelled.2]
  case case13 =>
    intro operator left right no_and no_or first second labelled
    simp only [evaluate, evaluateStepwise, first labelled.1, second labelled.2]
  case case14 =>
    intro test consequent alternative asked chosen refused labelled
    obtain ⟨own, yes, no⟩ := labelled
    simp only [evaluate, evaluateStepwise, asked own, chosen yes, refused no]
  case case15 =>
    intro items values labelled
    simp only [evaluate, evaluateStepwise, values labelled]
  case case16 | case18 => intros; rfl
  case case17 =>
    intro item rest first others labelled
    simp only [evaluateAll, evaluateAllStepwise, first labelled.1, others labelled.2]
  case case19 =>
    intro item rest first labelled
    simp only [evaluateFirst, evaluateFirstStepwise, first labelled.1]

end Expr

theorem Lexer.IsWord.isLabel {name : String} (isWord : Lexer.IsWord name.toList) :
    Value.IsLabel name := by
  have noDot : Lexer.isWordPart '.' = false := by decide
  have parts : ∀ c ∈ name.toList, Lexer.isWordPart c = true := by
    cases letters : name.toList with
    | nil => simp
    | cons c cs =>
        rw [letters] at isWord
        obtain ⟨start, all⟩ := Bool.and_eq_true_iff.mp isWord
        simpa [Lexer.isWordPart, start] using all
  constructor
  · rintro rfl
    exact isWord
  · intro dot
    have part := parts '.' dot
    rw [noDot] at part
    cases part

def Phrase.Labelled : (phrase : Phrase) → phrase.Tree → Prop
  | .items _, exprs => Expr.AllLabelled exprs
  | .expression, expr | .operation _, expr | .operand, expr | .primary, expr => Expr.Labelled expr

theorem Derivation.labelled {phrase : Phrase} {ts : List Token} {tree : phrase.Tree}
    (derivation : Derivation phrase ts tree)
    (named : ∀ token ∈ ts, ∀ name, Parser.propertyOf token = some name → Value.IsLabel name) :
    phrase.Labelled tree := by
  induction derivation with
  | operation inner ih | tighter inner ih | unprefixed inner ih | primary inner ih => exact ih named
  | conditional asked chosen refused first second third =>
      simp only [List.mem_append, List.mem_cons] at named
      exact ⟨first (by grind), second (by grind), third (by grind)⟩
  | binary spelled binds left right first second =>
      simp only [List.mem_append, List.mem_cons] at named
      exact ⟨first (by grind), second (by grind)⟩
  | unary spelled inner ih => exact ih (by grind)
  | member object own ih => exact ⟨ih (by grind), named _ (by simp) _ own⟩
  | index object inner first second => exact ⟨first (by grind), second (by grind)⟩
  | call callee inner first second => exact ⟨first (by grind), second (by grind)⟩
  | keyword word => cases word <;> trivial
  | identifier | string | number | none => trivial
  | parenthesis inner ih => exact ih (by grind)
  | array inner ih => exact ih (by grind)
  | last only ih => exact ⟨ih (by grind), trivial⟩
  | comma item rest first second => exact ⟨first (by grind), second (by grind)⟩

theorem labelled_of_parse {source : String} {expr : Expr} (read : parse source = .ok expr) :
    expr.Labelled := by
  obtain ⟨located, _, ⟨derivation⟩, lexemes⟩ := exists_derives_of_parse read
  exact derivation.labelled fun token member name named =>
    ((lexemes token member).isWord named).isLabel

namespace Expr

/--
Looking up chains of properties as paths gives the same value, or the same failure, as taking one
property after the other, for every expression that some source spells and in every scope.
-/
theorem evaluate_eq_stepwise {source : String} {expr : Expr} (read : parse source = .ok expr)
    (scope : Scope) : evaluate scope expr = evaluateStepwise scope expr :=
  (evaluate_eq_evaluateStepwise scope).1 expr (labelled_of_parse read)

def oddScope : Scope where
  context := .array [.string "first", .string "second"]
  utilities := []
  props := .object [("context", .null), ("posts", .array [.null]),
    ("user", .object [("length", .object [("name", .string "Ada")])])]
  depth := 0
  deeper _ _ := .ok ""

theorem lengths_looked_up :
    ∃ expr, parse "posts.length.name || context.length.name || props.user.length.name" = .ok expr ∧
      evaluate oddScope expr = evaluateStepwise oddScope expr ∧
      evaluate oddScope expr = .ok (some (.string "Ada")) := by
  have read : parse "posts.length.name || context.length.name || props.user.length.name" =
      .ok (.binary .or (.binary .or
        (.member (.member (.identifier "posts") "length") "name")
        (.member (.member (.identifier "context") "length") "name"))
        (.member (.member (.member (.identifier "props") "user") "length") "name")) := by cbv
  exact ⟨_, read, evaluate_eq_stepwise read oddScope, by cbv⟩

end Expr

end MarkupTree
