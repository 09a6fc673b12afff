import Mathlib
import MarkupTree.Proofs.Rendering.MemberAccess
import MarkupTree.Utility.Builtin

/-!
What expressions see of props. Every way into the data starts at an identifier, so an expression that
neither asks for the props as a whole nor hands them to a utility sees those fields of theirs that it
names, and nothing else: whatever else is in the props, it comes to the same.
-/

namespace MarkupTree

namespace Expr

mutual

def parts : Expr → List Expr
  | .literal value => [.literal value]
  | .undefined => [.undefined]
  | .identifier name => [.identifier name]
  | .member object name => .member object name :: object.parts
  | .index object key => .index object key :: (object.parts ++ key.parts)
  | .call callee arguments => .call callee arguments :: (callee.parts ++ partsOfAll arguments)
  | .unary operator operand => .unary operator operand :: operand.parts
  | .binary operator left right => .binary operator left right :: (left.parts ++ right.parts)
  | .conditional test consequent alternative =>
      .conditional test consequent alternative ::
        (test.parts ++ (consequent.parts ++ alternative.parts))
  | .array items => .array items :: partsOfAll items

def partsOfAll : List Expr → List Expr
  | [] => []
  | item :: rest => item.parts ++ partsOfAll rest

end

/-- An identifier stands in an expression, be it as data or as what is called. -/
def Mentions (expr : Expr) (name : String) : Prop := .identifier name ∈ expr.parts

/-- An expression stands in another one as what is called there. -/
def Calls (expr callee : Expr) : Prop := ∃ arguments, .call callee arguments ∈ expr.parts

def LeadsInto (name path : String) : Prop := path = name ∨ ∃ rest, path = name ++ "." ++ rest

theorem exists_mentions_of_staticPath {expr : Expr} {path : String}
    (static : staticPath expr = some path) :
    ∃ name, expr.Mentions name ∧ isCallOnly name = false ∧ LeadsInto name path := by
  induction expr using staticPath.induct generalizing path with
  | case1 name callOnly => simp [staticPath, callOnly] at static
  | case2 name data =>
      rw [staticPath, if_neg data] at static
      cases static
      exact ⟨name, List.mem_singleton.mpr rfl, Bool.not_eq_true _ ▸ data, .inl rfl⟩
  | case3 object property ih =>
      obtain ⟨inner, below, rfl⟩ := Option.map_eq_some_iff.mp static
      obtain ⟨name, mentioned, data, leads⟩ := ih below
      refine ⟨name, ?_, data, .inr ?_⟩
      · rw [Mentions, parts]
        exact List.mem_cons_of_mem _ mentioned
      · rcases leads with rfl | ⟨rest, rfl⟩
        · exact ⟨property, rfl⟩
        · exact ⟨rest ++ "." ++ property, by simp only [String.append_assoc]⟩
  | case4 expr other dynamic => simp [staticPath] at static

end Expr

namespace Value

def field? (value : Value) (name : String) : Option Value :=
  value.asObject?.bind fun fields => Fields.find? fields name

theorem segments_of_leadsInto {name path : String} (label : IsLabel name)
    (leads : Expr.LeadsInto name path) : ∃ rest, segments path = name :: rest := by
  rcases leads with rfl | ⟨rest, rfl⟩
  · exact ⟨[], label.segments⟩
  · exact ⟨segments rest, by rw [segments_append_dot, label.segments, List.singleton_append]⟩

theorem lookupPath_of_field? {value held : Value} {name : String} {path : String}
    {rest : List String} (found : value.field? name = some held)
    (split : segments path = name :: rest) : value.lookupPath path = held.walk rest := by
  cases value with
  | object fields =>
      have child : (Value.object fields).child? name = some held := found
      rw [lookupPath, split, walk, child]
  | _ => cases found

end Value

namespace Scope

variable {scope : Scope} {props other : Value} {name path : String}

theorem hasProp_withProps (scope : Scope) (props : Value) (name : String) :
    (scope.withProps props).hasProp name = (props.field? name).isSome := by
  cases props <;> rfl

theorem shadowed_congr (label : Value.IsLabel name) (leads : Expr.LeadsInto name path)
    (same : props.field? name = other.field? name) (context : Value) :
    (if (props.field? name).isSome then props.lookupPath path else context.lookupPath path) =
      if (other.field? name).isSome then other.lookupPath path else context.lookupPath path := by
  obtain ⟨rest, split⟩ := Value.segments_of_leadsInto label leads
  cases found : props.field? name with
  | none => rw [← same, found]; rfl
  | some held =>
      rw [← same, found, Value.lookupPath_of_field? found split,
        Value.lookupPath_of_field? (same.symm.trans found) split]

theorem exists_lookup_eq (label : Value.IsLabel name) (leads : Expr.LeadsInto name path) :
    ∃ rest, ∀ scope : Scope, scope.lookup path =
      if name = "context" then scope.context.lookupPath rest
      else if name = "props" then scope.props.lookupPath rest
      else if scope.hasProp name then scope.props.lookupPath path
      else scope.context.lookupPath path := by
  have whole := Text.cut?_eq_none label.whole
  rcases leads with rfl | ⟨rest, rfl⟩
  · refine ⟨"", fun scope => ?_⟩
    simp only [lookup, whole]
  · refine ⟨rest, fun scope => ?_⟩
    have letters : (name ++ "." ++ rest).toList = name.toList ++ '.' :: rest.toList := by
      simp [String.toList_append]
    have cut := Text.cut?_append_of_eq_none whole rest.toList
    simp only [lookup, letters, cut, String.ofList_toList]

theorem lookup_withProps_congr (label : Value.IsLabel name) (leads : Expr.LeadsInto name path)
    (unasked : name ≠ "props") (same : name ≠ "context" → props.field? name = other.field? name) :
    (scope.withProps props).lookup path = (scope.withProps other).lookup path := by
  obtain ⟨rest, looked⟩ := exists_lookup_eq label leads
  rw [looked, looked, hasProp_withProps, hasProp_withProps]
  by_cases root : name = "context"
  · rw [if_pos root, if_pos root]
    rfl
  · rw [if_neg root, if_neg root, if_neg unasked, if_neg unasked]
    exact shadowed_congr label leads (same root) scope.context

end Scope

namespace Expr

/-- What a utility is called with is more than its arguments: it is handed all props. -/
def Callee.IsUtility : Callee → Prop
  | .utility _ _ => True
  | _ => False

/-- Props that an expression cannot tell apart, as far as this part of it goes. -/
def SeesAlike (scope : Scope) (props other : Value) : Expr → Prop
  | .identifier name => Value.IsLabel name ∧ name ≠ "props" ∧
      (name ≠ "context" → isCallOnly name = false → props.field? name = other.field? name)
  | .call callee _ => ¬ (calleeOf scope callee).IsUtility
  | _ => True

variable {scope : Scope} {props other : Value}

theorem lookup_of_staticPath {expr : Expr} {path : String} (static : staticPath expr = some path)
    (alike : ∀ part ∈ expr.parts, part.SeesAlike scope props other) :
    (scope.withProps props).lookup path = (scope.withProps other).lookup path := by
  obtain ⟨name, mentioned, data, leads⟩ := exists_mentions_of_staticPath static
  obtain ⟨label, unasked, same⟩ := alike _ mentioned
  exact Scope.lookup_withProps_congr label leads unasked fun root => same root data

theorem evaluate_withProps_congr (scope : Scope) (props other : Value) :
    (∀ expr : Expr, (∀ part ∈ expr.parts, part.SeesAlike scope props other) →
      evaluate (scope.withProps props) expr = evaluate (scope.withProps other) expr) ∧
    (∀ items : List Expr, (∀ part ∈ partsOfAll items, part.SeesAlike scope props other) →
      evaluateAll (scope.withProps props) items = evaluateAll (scope.withProps other) items) ∧
    ∀ items : List Expr, (∀ part ∈ partsOfAll items, part.SeesAlike scope props other) →
      evaluateFirst (scope.withProps props) items =
        evaluateFirst (scope.withProps other) items := by
  apply evaluate.mutual_induct (scope.withProps props)
  case case1 | case2 => intros; rfl
  case case3 =>
    intro name alike
    obtain ⟨label, unasked, same⟩ := alike _ (List.mem_singleton.mpr rfl)
    rw [evaluate, evaluate, identifierValue, identifierValue, if_neg unasked, if_neg unasked]
    by_cases callOnly : isCallOnly name
    · rw [if_pos callOnly, if_pos callOnly]
      rfl
    · have data : isCallOnly name = false := Bool.not_eq_true _ ▸ callOnly
      rw [if_neg callOnly, if_neg callOnly,
        Scope.lookup_withProps_congr label (.inl rfl) unasked fun root => same root data]
      rfl
  case case4 =>
    intro object name path static alike
    simp only [evaluate, static, lookup_of_staticPath static alike]
  case case5 =>
    intro object name dynamic below alike
    simp only [parts, List.forall_mem_cons] at alike
    simp only [evaluate, dynamic, below alike.2]
  case case6 =>
    intro object key own inside alike
    simp only [parts, List.forall_mem_cons, List.forall_mem_append] at alike
    simp only [evaluate, own alike.2.1, inside alike.2.2]
  case case7 =>
    intro callee arguments called target alike
    have again : calleeOf (scope.withProps other) callee = .render := called
    simp only [parts, List.forall_mem_cons, List.forall_mem_append] at alike
    -- a nested render has no props, so it is the same one in both scopes
    simp only [evaluate, called, again, target alike.2.2]
    rfl
  case case8 =>
    intro callee arguments name utility called values alike
    simp only [parts, List.forall_mem_cons] at alike
    have plain : ¬ (calleeOf scope callee).IsUtility := alike.1
    have found : calleeOf scope callee = .utility name utility := called
    exact absurd (found ▸ trivial) plain
  case case9 =>
    intro callee arguments name called alike
    have again : calleeOf (scope.withProps other) callee = .nobody name := called
    simp only [evaluate, called, again]
  case case10 =>
    intro operator operand own alike
    simp only [parts, List.forall_mem_cons] at alike
    simp only [evaluate, own alike.2]
  case case11 | case12 =>
    intro left right first second alike
    simp only [parts, List.forall_mem_cons, List.forall_mem_append] at alike
    simp only [evaluate, first alike.2.1, second alike.2.2]
  case case13 =>
    intro operator left right no_and no_or first second alike
    simp only [parts, List.forall_mem_cons, List.forall_mem_append] at alike
    simp only [evaluate, first alike.2.1, second alike.2.2]
  case case14 =>
    intro test consequent alternative asked chosen refused alike
    simp only [parts, List.forall_mem_cons, List.forall_mem_append] at alike
    obtain ⟨_, own, yes, no⟩ := alike
    simp only [evaluate, asked own, chosen yes, refused no]
  case case15 =>
    intro items values alike
    simp only [parts, List.forall_mem_cons] at alike
    simp only [evaluate, values alike.2]
  case case16 | case18 => intros; rfl
  case case17 =>
    intro item rest first others alike
    simp only [partsOfAll, List.forall_mem_append] at alike
    simp only [evaluateAll, first alike.1, others alike.2]
  case case19 =>
    intro item rest first alike
    simp only [partsOfAll, List.forall_mem_append] at alike
    simp only [evaluateFirst, first alike.1]

end Expr

/-! Identifiers of a source are words of it, so they are no paths themselves. -/

def Phrase.parts : (phrase : Phrase) → phrase.Tree → List Expr
  | .items _, exprs => Expr.partsOfAll exprs
  | .expression, expr | .operation _, expr | .operand, expr | .primary, expr => expr.parts

theorem Derivation.mem_of_identifier {phrase : Phrase} {ts : List Token} {tree : phrase.Tree}
    (derivation : Derivation phrase ts tree) {name : String}
    (mentioned : .identifier name ∈ phrase.parts tree) : .identifier name.toList ∈ ts := by
  induction derivation with
  | operation inner ih | tighter inner ih | unprefixed inner ih | primary inner ih =>
      exact ih mentioned
  | conditional asked chosen refused first second third =>
      simp only [Phrase.parts, Expr.parts, List.mem_cons, List.mem_append, reduceCtorEq,
        false_or] at mentioned first second third ⊢
      exact mentioned.imp first (.imp second third)
  | binary spelled binds left right first second =>
      simp only [Phrase.parts, Expr.parts, List.mem_cons, List.mem_append, reduceCtorEq,
        false_or] at mentioned first second ⊢
      exact mentioned.imp first second
  | unary spelled inner ih =>
      simp only [Phrase.parts, Expr.parts, List.mem_cons, reduceCtorEq, false_or] at mentioned ih ⊢
      exact ih mentioned
  | member object own ih =>
      simp only [Phrase.parts, Expr.parts, List.mem_cons, reduceCtorEq, false_or] at mentioned ih
      exact List.mem_append_left _ (ih mentioned)
  | index object inner first second =>
      simp only [Phrase.parts, Expr.parts, List.mem_cons, List.mem_append, reduceCtorEq,
        false_or] at mentioned first second ⊢
      exact mentioned.imp first fun inside => .inl (second inside)
  | call callee inner first second =>
      simp only [Phrase.parts, Expr.parts, List.mem_cons, List.mem_append, reduceCtorEq,
        false_or] at mentioned first second ⊢
      exact mentioned.imp first second
  | keyword word =>
      cases word <;> cases List.mem_singleton.mp mentioned
  | identifier letters =>
      cases List.mem_singleton.mp mentioned
      rw [String.toList_ofList]
      exact List.mem_singleton.mpr rfl
  | string | number => cases List.mem_singleton.mp mentioned
  | none => cases mentioned
  | parenthesis inner ih =>
      exact List.mem_cons_of_mem _ (List.mem_append_left _ (ih mentioned))
  | array inner ih =>
      simp only [Phrase.parts, Expr.parts, List.mem_cons, reduceCtorEq, false_or] at mentioned ih ⊢
      exact ih mentioned
  | last only ih =>
      simp only [Phrase.parts, Expr.partsOfAll, List.append_nil] at mentioned ih
      exact List.mem_append_left _ (ih mentioned)
  | comma item rest first second =>
      simp only [Phrase.parts, Expr.partsOfAll, List.mem_cons, List.mem_append, reduceCtorEq,
        false_or] at mentioned first second ⊢
      exact mentioned.imp first second

theorem isLabel_of_mentions {source : String} {expr : Expr} (read : parse source = .ok expr)
    {name : String} (mentioned : expr.Mentions name) : Value.IsLabel name := by
  obtain ⟨located, _, ⟨derivation⟩, lexemes⟩ := exists_derives_of_parse read
  have token := derivation.mem_of_identifier mentioned
  have spelled : Parser.propertyOf (.identifier name.toList) = some name := by
    rw [Parser.propertyOf, String.ofList_toList]
  exact ((lexemes _ token).isWord spelled).isLabel

namespace Expr

/--
Of the props, an expression sees the fields that it names. If it does not mention `props` and calls no
utility, it comes to the same with any two props that have the same in every field that it mentions:
to the same value, or to the same failure. Nested renders are no way around this, for they do not see
the props at all.
-/
theorem evaluate_eq_of_named_props {source : String} {expr : Expr}
    (read : parse source = .ok expr) (scope : Scope) {props other : Value}
    (unasked : ¬ expr.Mentions "props")
    (plain : ∀ callee, expr.Calls callee → ¬ (calleeOf scope callee).IsUtility)
    (named : ∀ name, expr.Mentions name → name ≠ "context" → name ≠ "utilities" →
      name ≠ "render" → props.field? name = other.field? name) :
    expr.evaluate (scope.withProps props) = expr.evaluate (scope.withProps other) := by
  refine (evaluate_withProps_congr scope props other).1 expr fun part member => ?_
  cases part with
  | identifier name =>
      refine ⟨isLabel_of_mentions read member, ?_, fun root data => ?_⟩
      · rintro rfl
        exact unasked member
      · have callable : name ≠ "utilities" ∧ name ≠ "render" := by simpa [isCallOnly] using data
        exact named name member root callable.1 callable.2
  | call callee arguments => exact plain callee ⟨arguments, member⟩
  | _ => trivial

def deskScope : Scope :=
  Renderer.rootScope
    { context := .object [("title", .string "Site"),
        ("card", .object [("element", .string "b"), ("__children", .string "title")])]
      utilities := Builtin.all } .null

def guestProps : Value :=
  .object [("context", .null), ("title", .string "Home"), ("utilities", .array [])]

theorem greeting_sees_named_props :
    ∃ expr, parse "render(card) + title + context.title" = .ok expr ∧
      expr.evaluate (deskScope.withProps guestProps) =
        expr.evaluate (deskScope.withProps (.object [("title", .string "Home"), ("name", .null)])) ∧
      expr.evaluate (deskScope.withProps guestProps) =
        .ok (some (.string "<b>Site</b>HomeSite")) := by
  have read : parse "render(card) + title + context.title" =
      .ok (.binary .add
        (.binary .add (.call (.identifier "render") [.identifier "card"]) (.identifier "title"))
        (.member (.identifier "context") "title")) := by cbv
  refine ⟨_, read, evaluate_eq_of_named_props read deskScope ?_ ?_ ?_, by cbv⟩
  · simp [Mentions, parts, partsOfAll]
  · rintro callee ⟨arguments, member⟩
    simp [parts, partsOfAll] at member
    obtain ⟨rfl, _⟩ := member
    exact id
  · intro name mentioned root
    simp [Mentions, parts, partsOfAll, root] at mentioned
    rcases mentioned with rfl | rfl | rfl
    · intro _ called
      exact absurd rfl called
    · intros
      rfl
    · intros
      rfl

end Expr

end MarkupTree
