import MarkupTree.Proofs.Syntax.Completeness
import MarkupTree.Proofs.Syntax.Soundness

/-!
The parser accepts exactly what the grammar derives, as long as the nesting limit is not hit; and it
is never hit by fewer than half as many tokens.
-/

namespace MarkupTree

namespace Parser

theorem whole_eq_ok_iff {finish : Nat} {tokens : List Located} {expr : Expr} :
    whole finish tokens = .ok expr ↔
      ∃ derivation : Derivation .expression (tokens.map Located.token) expr,
        derivation.nesting ≤ nestingLimit := by
  constructor
  · intro read
    rcases whole_outcome finish tokens with ⟨other, found, derivation, fits⟩ | ⟨cause, failed, _⟩
    · rw [read] at found
      cases found
      exact ⟨derivation, fits⟩
    · rw [read] at failed
      cases failed
  · rintro ⟨derivation, fits⟩
    have read := whole_complete derivation finish
    rwa [Reaches, if_pos fits] at read

/-- The nesting limit is hit. -/
def TooDeep (result : Except SyntaxError Expr) : Prop :=
  ∃ place, result = .error (.tooDeep place)

/-- A token, or the end of the source, stands where the grammar has no place for it. -/
def Misplaced (result : Except SyntaxError Expr) : Prop :=
  (∃ place expected found, result = .error (.unexpectedToken place expected found)) ∨
    ∃ place, result = .error (.unexpectedEnd place)

theorem whole_eq_ok_of_derives {finish : Nat} {tokens : List Located} {expr : Expr}
    (derives : Derives (tokens.map Located.token) expr)
    (shallow : ¬ TooDeep (whole finish tokens)) : whole finish tokens = .ok expr := by
  obtain ⟨derivation⟩ := derives
  have read := whole_complete derivation finish
  unfold Reaches at read
  split at read
  · exact read
  · exact absurd read shallow

theorem derives_of_whole_eq_ok {finish : Nat} {tokens : List Located} {expr : Expr}
    (read : whole finish tokens = .ok expr) : Derives (tokens.map Located.token) expr := by
  obtain ⟨derivation, _⟩ := whole_eq_ok_iff.mp read
  exact ⟨derivation⟩

/--
The parser accepts exactly the grammar, unless it hits its nesting limit: it finds the one
expression that the tokens derive, and it finds something misplaced if they derive none. Each token
opens two levels at most, so less than half the limit in tokens never hits it.
-/
theorem whole_accepts_grammar (finish : Nat) (tokens : List Located) :
    (¬ TooDeep (whole finish tokens) →
      (∀ expr, whole finish tokens = .ok expr ↔ Derives (tokens.map Located.token) expr) ∧
      (∀ expr other, Derives (tokens.map Located.token) expr →
        Derives (tokens.map Located.token) other → expr = other) ∧
      (Misplaced (whole finish tokens) ↔
        ¬ ∃ expr, Derives (tokens.map Located.token) expr)) ∧
    (tokens.length ≤ 31 → ¬ TooDeep (whole finish tokens)) := by
  refine ⟨fun shallow => ⟨fun expr => ?_, fun expr other first second => ?_, ?_, ?_⟩, ?_⟩
  · exact ⟨derives_of_whole_eq_ok, fun derives => whole_eq_ok_of_derives derives shallow⟩
  · have read := whole_eq_ok_of_derives first shallow
    rw [whole_eq_ok_of_derives second shallow] at read
    exact (Except.ok.inj read).symm
  · rintro misplaced ⟨expr, derives⟩
    rw [whole_eq_ok_of_derives derives shallow] at misplaced
    rcases misplaced with ⟨_, _, _, read⟩ | ⟨_, read⟩ <;> cases read
  · intro underivable
    rcases whole_outcome finish tokens with ⟨expr, read, _⟩ | ⟨cause, failed, fails⟩
    · exact absurd ⟨expr, derives_of_whole_eq_ok read⟩ underivable
    · cases cause with
      | unreadable place => exact fails.elim
      | unexpectedToken place expected found => exact .inl ⟨place, expected, found, failed⟩
      | unexpectedEnd place => exact .inr ⟨place, failed⟩
      | tooDeep place => exact absurd ⟨place, failed⟩ shallow
  · rintro short ⟨place, deep⟩
    rcases whole_outcome finish tokens with ⟨expr, read, _⟩ | ⟨cause, failed, fails⟩
    · rw [deep] at read
      cases read
    · rw [deep] at failed
      cases failed
      have opened : nestingLimit < 1 + 2 * tokens.length := fails
      rw [nestingLimit] at opened
      omega

def sumOfProduct : List Located :=
  [⟨.identifier ['a'], 0, 1⟩, ⟨.symbol .plus, 1, 2⟩, ⟨.identifier ['b'], 2, 3⟩,
    ⟨.symbol .times, 3, 4⟩, ⟨.identifier ['c'], 4, 5⟩]

theorem sumOfProduct_accepted :
    sumOfProduct.length ≤ 31 ∧ ¬ TooDeep (whole 5 sumOfProduct) ∧
      whole 5 sumOfProduct = .ok (.binary .add (.identifier "a")
        (.binary .multiply (.identifier "b") (.identifier "c"))) := by
  have short : sumOfProduct.length ≤ 31 := by decide
  have shallow := (whole_accepts_grammar 5 sumOfProduct).2 short
  have name (c : Char) : Derivation (.operation 0) [.identifier [c]]
      (.identifier (String.ofList [c])) := .unprefixed (.primary (.identifier [c]))
  have times : BinaryOperator.ofSymbol? .times = some .multiply := rfl
  have plus : BinaryOperator.ofSymbol? .plus = some .add := rfl
  have product := Derivation.binary times rfl (.tighter (name 'b')) (name 'c')
  have sum := Derivation.binary plus rfl (.tighter (.tighter (name 'a'))) product
  refine ⟨short, shallow, ?_⟩
  exact (((whole_accepts_grammar 5 sumOfProduct).1 shallow).1 _).mpr
    ⟨.operation (.tighter (.tighter (.tighter (.tighter sum))))⟩

end Parser

end MarkupTree
