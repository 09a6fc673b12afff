import Mathlib
import MarkupTree.Proofs.Syntax.Acceptance
import MarkupTree.Proofs.Syntax.Spelling

/-!
How high an accepted expression is. A chain gives its levels of nesting back where it ends, and the
chain around it opens them again, above a left operand that is already as high. So the levels bound
each chain, not the height: a tree stacks suffixes, six levels of operators, a choice and a bracket
for every level of nesting.
-/

namespace MarkupTree

open MarkupTree.Parser (loosest)

theorem Expr.height_pos (expr : Expr) : 1 ≤ expr.height := by
  cases expr <;> rw [Expr.height] <;> omega

def tallest : Nat → Nat
  | 0 => 0
  | 1 => 1
  | levels + 2 => tallest (levels + 1) + 7 * (levels + 1) + 2

theorem tallest_succ {levels : Nat} (opened : 1 ≤ levels) :
    tallest (levels + 1) = tallest levels + 7 * levels + 2 := by
  cases levels with
  | zero => exact absurd opened (by omega)
  | succ levels => rw [tallest]

theorem tallest_mono {a b : Nat} (le : a ≤ b) : tallest a ≤ tallest b := by
  induction le with
  | refl => exact Nat.le_refl _
  | @step b _ ih =>
      refine Nat.le_trans ih ?_
      cases b with
      | zero => exact Nat.zero_le _
      | succ b =>
          rw [tallest]
          omega

namespace Phrase

def height : (phrase : Phrase) → phrase.Tree → Nat
  | .items _, exprs => Expr.heightAll exprs
  | .expression, expr | .operation _, expr | .operand, expr | .primary, expr => Expr.height expr

def tallest (levels spine : Nat) : Phrase → Nat
  | .expression | .items _ => MarkupTree.tallest levels
  | .operation 0 => MarkupTree.tallest levels + 1 + levels
  | .operation (level + 1) => MarkupTree.tallest levels + 1 + (level + 1) * levels + spine
  | .operand => MarkupTree.tallest levels + 1 + spine
  | .primary => MarkupTree.tallest levels + 1

theorem tallest_operation_le {levels spine : Nat} (le : spine ≤ levels) (level : Nat) :
    tallest levels spine (.operation level) ≤
      MarkupTree.tallest levels + 1 + (level + 1) * levels := by
  cases level with
  | zero =>
      rw [tallest]
      omega
  | succ level =>
      rw [tallest, Nat.succ_mul (level + 1)]
      omega

theorem tallest_loosest_le {levels spine : Nat} (le : spine ≤ levels) :
    tallest levels spine (.operation loosest) ≤ MarkupTree.tallest (levels + 1) := by
  have below := tallest_operation_le le loosest
  rw [loosest] at below ⊢
  cases levels with
  | zero => exact below
  | succ levels =>
      rw [tallest_succ (by omega)]
      omega

end Phrase

namespace Derivation

theorem spine_le_nesting {phrase : Phrase} {ts : List Token} {tree : phrase.Tree}
    (derivation : Derivation phrase ts tree) : derivation.spine ≤ derivation.nesting := by
  cases derivation <;> simp only [spine, nesting] <;> omega

theorem nesting_pos {ts : List Token} {expr : Expr} (derivation : Derivation .expression ts expr) :
    1 ≤ derivation.nesting := by
  cases derivation <;> rw [nesting] <;> omega

/-- The nodes that are piled up above the deepest leaf of a phrase. Where nesting takes the greater of
what a first operand opens and what its chain opens, these are added; brackets count for nothing. -/
@[simp] def piled : {phrase : Phrase} → {ts : List Token} → {tree : phrase.Tree} →
    Derivation phrase ts tree → Nat
  | _, _, _, .operation inner => inner.piled
  | _, _, _, .conditional asked chosen refused =>
      max asked.piled (max chosen.piled refused.piled) + 1
  | _, _, _, .tighter inner => inner.piled
  | _, _, _, .binary _ _ first second => max first.piled second.piled + 1
  | _, _, _, .unprefixed inner => inner.piled
  | _, _, _, .unary _ inner => inner.piled + 1
  | _, _, _, .primary inner => inner.piled
  | _, _, _, .member object _ => object.piled + 1
  | _, _, _, .index object inner => max object.piled inner.piled + 1
  | _, _, _, .call callee inner => max callee.piled inner.piled + 1
  | _, _, _, .keyword _ | _, _, _, .identifier _ | _, _, _, .string _ | _, _, _, .number _ => 1
  | _, _, _, .parenthesis inner => inner.piled
  | _, _, _, .array inner => inner.piled + 1
  | _, _, _, .none => 0
  | _, _, _, .last only => only.piled
  | _, _, _, .comma first rest => max first.piled rest.piled

theorem height_eq_piled {phrase : Phrase} {ts : List Token} {tree : phrase.Tree}
    (derivation : Derivation phrase ts tree) : phrase.height tree = derivation.piled := by
  induction derivation with
  | operation inner ih | tighter inner ih | unprefixed inner ih | primary inner ih
  | parenthesis inner ih => exact ih
  | conditional asked chosen refused asked_ih chosen_ih refused_ih =>
      rw [piled, ← asked_ih, ← chosen_ih, ← refused_ih]
      rfl
  | binary spelled binds first second first_ih second_ih =>
      rw [piled, ← first_ih, ← second_ih]
      rfl
  | unary spelled inner ih | member object named ih | array inner ih =>
      rw [piled, ← ih]
      rfl
  | index object inner object_ih inner_ih | call object inner object_ih inner_ih =>
      rw [piled, ← object_ih, ← inner_ih]
      rfl
  | keyword word => cases word <;> rfl
  | identifier | string | number | none => rfl
  | @last close ts item only ih =>
      rw [piled, ← ih]
      exact Nat.max_eq_left (Nat.zero_le _)
  | comma first rest first_ih rest_ih =>
      rw [piled, ← first_ih, ← rest_ih]
      rfl

theorem height_le {phrase : Phrase} {ts : List Token} {tree : phrase.Tree}
    (derivation : Derivation phrase ts tree) (levels : Nat) (fits : derivation.nesting ≤ levels) :
    phrase.height tree ≤ phrase.tallest levels derivation.spine := by
  induction derivation generalizing levels with
  | @operation ts expr inner ih =>
      rw [nesting] at fits
      obtain ⟨less, rfl⟩ : ∃ less, levels = less + 1 := ⟨levels - 1, by omega⟩
      have spine := inner.spine_le_nesting
      have below : expr.height ≤ _ := ih less (by omega)
      exact Nat.le_trans below (Phrase.tallest_loosest_le (by omega))
  | @conditional ts us vs test consequent alternative asked chosen refused asked_ih chosen_ih refused_ih =>
      rw [nesting] at fits
      obtain ⟨less, rfl⟩ : ∃ less, levels = less + 1 := ⟨levels - 1, by omega⟩
      have opened := chosen.nesting_pos
      have spine := asked.spine_le_nesting
      have tested : test.height ≤ _ := asked_ih less (by omega)
      have first : consequent.height ≤ tallest less := chosen_ih less (by omega)
      have second : alternative.height ≤ tallest less := refused_ih less (by omega)
      have below := Phrase.tallest_operation_le (by omega : asked.spine ≤ less) loosest
      have above := tallest_succ (by omega : 1 ≤ less)
      simp only [Phrase.height, Phrase.tallest, Expr.height, loosest] at tested below ⊢
      omega
  | @tighter level ts expr inner ih =>
      rw [nesting] at fits
      have spine := inner.spine_le_nesting
      exact Nat.le_trans (ih levels fits) (Phrase.tallest_operation_le (by omega) level)
  | binary spelled binds first second first_ih second_ih =>
      rw [nesting] at fits
      have spine := second.spine_le_nesting
      have left := first_ih levels (by omega)
      have right := Nat.le_trans (second_ih levels (by omega))
        (Phrase.tallest_operation_le (by omega) _)
      simp only [Phrase.height, Phrase.tallest, Expr.height, Derivation.spine] at left right ⊢
      omega
  | unprefixed inner ih =>
      rw [nesting] at fits
      have spine := inner.spine_le_nesting
      have below := ih levels fits
      simp only [Phrase.height, Phrase.tallest] at below ⊢
      omega
  | unary spelled inner ih =>
      rw [nesting] at fits
      have below := ih (levels - 1) (by omega)
      have mono := tallest_mono (Nat.sub_le levels 1)
      simp only [Phrase.height, Phrase.tallest, Expr.height] at below ⊢
      omega
  | primary inner ih =>
      rw [nesting] at fits
      exact ih levels fits
  | member object named ih =>
      rw [nesting] at fits
      have below := ih levels (by omega)
      simp only [Phrase.height, Phrase.tallest, Expr.height, Derivation.spine] at below ⊢
      omega
  | index object inner object_ih inner_ih | call object inner object_ih inner_ih =>
      rw [nesting] at fits
      have below := object_ih levels (by omega)
      have beside := inner_ih levels (by omega)
      simp only [Phrase.height, Phrase.tallest, Expr.height, Derivation.spine] at below beside ⊢
      omega
  | keyword word => cases word <;> exact Nat.le_add_left 1 _
  | identifier | string | number => exact Nat.le_add_left 1 _
  | parenthesis inner ih =>
      rw [nesting] at fits
      exact Nat.le_succ_of_le (ih levels fits)
  | array inner ih =>
      rw [nesting] at fits
      have below := ih levels fits
      simp only [Phrase.height, Phrase.tallest, Expr.height] at below ⊢
      omega
  | none => exact Nat.zero_le _
  | @last close ts item only ih =>
      rw [nesting] at fits
      have below : item.height ≤ _ := ih levels fits
      simp only [Phrase.height, Phrase.tallest, Expr.heightAll] at below ⊢
      omega
  | @comma close ts us item others first rest first_ih rest_ih =>
      rw [nesting] at fits
      have below : item.height ≤ _ := first_ih levels (by omega)
      have beside : Expr.heightAll others ≤ _ := rest_ih levels (by omega)
      simp only [Phrase.height, Phrase.tallest, Expr.heightAll] at below beside ⊢
      omega

end Derivation

/-! Every height up to these bounds occurs. -/

def Derivation.leaf : (level : Nat) →
    Derivation (.operation level) [.identifier ['a']] (.identifier (String.ofList ['a']))
  | 0 => .unprefixed (.primary (.identifier ['a']))
  | level + 1 => .tighter (leaf level)

theorem Derivation.nesting_leaf (level : Nat) : (leaf level).nesting = 0 := by
  induction level with
  | zero => rfl
  | succ level ih => exact ih

theorem apart_name : Lexer.Apart (.identifier ['a']) := by
  refine Lexer.apart_identifier (by decide) (by simp) ?_
  intro word
  rcases word with (_ | _) | _ | _ <;> decide

/-- A phrase of this height whose tokens a source can spell, and which opens so many levels of
nesting at most, so many of them for its own chain. -/
def Occurs (phrase : Phrase) (levels spine height : Nat) : Prop :=
  ∃ ts tree, ∃ derivation : Derivation phrase ts tree,
    (∀ token ∈ ts, Lexer.Apart token) ∧ derivation.nesting ≤ levels ∧ derivation.spine = spine ∧
      phrase.height tree = height

namespace Occurs

variable {levels spine height : Nat}

theorem name (levels : Nat) : Occurs .primary levels 0 1 :=
  ⟨_, _, .identifier ['a'], by simp [apart_name], Nat.zero_le _, rfl, rfl⟩

theorem array (inner : Occurs .expression levels spine height) :
    Occurs .primary levels 0 (height + 1) := by
  obtain ⟨ts, expr, derivation, apart, fits, _, rfl⟩ := inner
  refine ⟨_, _, .array (.last derivation), ?_, fits, rfl, ?_⟩
  · simpa [or_imp, forall_and, Lexer.apart_symbol] using apart
  · simp only [Phrase.height, Expr.height, Expr.heightAll]
    omega

theorem operand (inner : Occurs .primary levels spine height) : Occurs .operand levels 0 height := by
  obtain ⟨ts, expr, derivation, apart, fits, _, rfl⟩ := inner
  exact ⟨ts, expr, .primary derivation, apart, fits, rfl, rfl⟩

theorem member (inner : Occurs .operand levels spine height) (room : spine < levels) :
    Occurs .operand levels (spine + 1) (height + 1) := by
  obtain ⟨ts, expr, derivation, apart, fits, rfl, rfl⟩ := inner
  have named : Parser.propertyOf (.identifier ['a']) = some (String.ofList ['a']) := rfl
  refine ⟨_, _, .member derivation named, ?_, ?_, rfl, rfl⟩
  · simpa [or_imp, forall_and, Lexer.apart_symbol, apart_name] using apart
  · simp only [Derivation.nesting]
    omega

theorem unprefixed (inner : Occurs .operand levels spine height) :
    Occurs (.operation 0) levels 0 height := by
  obtain ⟨ts, expr, derivation, apart, fits, _, rfl⟩ := inner
  exact ⟨ts, expr, .unprefixed derivation, apart, fits, rfl, rfl⟩

theorem tighter {level : Nat} (inner : Occurs (.operation level) levels spine height) :
    Occurs (.operation (level + 1)) levels 0 height := by
  obtain ⟨ts, expr, derivation, apart, fits, _, rfl⟩ := inner
  exact ⟨ts, expr, .tighter derivation, apart, fits, rfl, rfl⟩

theorem binary {mark : Symbol} {operator : BinaryOperator} {level : Nat}
    (spelled : BinaryOperator.ofSymbol? mark = some operator)
    (binds : operator.looseness = level + 1)
    (inner : Occurs (.operation (level + 1)) levels spine height) (room : spine < levels) :
    Occurs (.operation (level + 1)) levels (spine + 1) (height + 1) := by
  obtain ⟨ts, expr, derivation, apart, fits, rfl, rfl⟩ := inner
  refine ⟨_, _, .binary spelled binds derivation (.leaf level), ?_, ?_, rfl, ?_⟩
  · simpa [or_imp, forall_and, Lexer.apart_symbol, apart_name] using apart
  · simp only [Derivation.nesting, Derivation.nesting_leaf]
    omega
  · have above := Expr.height_pos expr
    simp only [Phrase.height, Expr.height]
    omega

theorem operation (inner : Occurs (.operation loosest) levels spine height) :
    Occurs .expression (levels + 1) 0 height := by
  obtain ⟨ts, expr, derivation, apart, fits, _, rfl⟩ := inner
  exact ⟨ts, expr, .operation derivation, apart, Nat.succ_le_succ fits, rfl, rfl⟩

theorem conditional (inner : Occurs (.operation loosest) levels spine height) (room : 0 < levels) :
    Occurs .expression (levels + 1) 0 (height + 1) := by
  obtain ⟨ts, expr, derivation, apart, fits, _, rfl⟩ := inner
  refine ⟨_, _, .conditional derivation (.operation (.leaf _)) (.operation (.leaf _)), ?_, ?_, rfl,
    ?_⟩
  · simpa [or_imp, forall_and, Lexer.apart_symbol, apart_name] using apart
  · simp only [Derivation.nesting, Derivation.nesting_leaf]
    omega
  · have above := Expr.height_pos expr
    simp only [Phrase.height, Expr.height]
    omega

end Occurs

def Fills (phrase : Phrase) (levels top : Nat) : Prop :=
  ∀ height, 1 ≤ height → height ≤ top → ∃ spine, Occurs phrase levels spine height

namespace Fills

variable {levels top : Nat}

theorem chain {phrase : Phrase} (any : 1 ≤ top)
    (starts : ∀ height, 1 ≤ height → height ≤ top → Occurs phrase levels 0 height)
    (grows : ∀ spine height, spine < levels → Occurs phrase levels spine height →
      Occurs phrase levels (spine + 1) (height + 1)) : Fills phrase levels (top + levels) := by
  have grown : ∀ links, links ≤ levels → Occurs phrase levels links (top + links) := by
    intro links room
    induction links with
    | zero => exact starts top any (Nat.le_refl _)
    | succ links ih => exact grows links _ room (ih (by omega))
  intro height least most
  rcases Nat.le_total height top with below | above
  · exact ⟨0, starts height least below⟩
  · obtain ⟨links, rfl⟩ := Nat.exists_eq_add_of_le above
    exact ⟨links, grown links (by omega)⟩

theorem primary (inner : Fills .expression levels top) : Fills .primary levels (top + 1) := by
  intro height least most
  rcases Nat.eq_or_lt_of_le least with rfl | more
  · exact ⟨0, Occurs.name levels⟩
  · obtain ⟨less, rfl⟩ : ∃ less, height = less + 1 := ⟨height - 1, by omega⟩
    obtain ⟨spine, occurs⟩ := inner less (by omega) (by omega)
    exact ⟨0, occurs.array⟩

theorem operand (any : 1 ≤ top) (inner : Fills .primary levels top) :
    Fills .operand levels (top + levels) := by
  refine chain any ?_ fun spine height room occurs => occurs.member room
  intro height least most
  obtain ⟨spine, occurs⟩ := inner height least most
  exact occurs.operand

theorem unprefixed (inner : Fills .operand levels top) : Fills (.operation 0) levels top := by
  intro height least most
  obtain ⟨spine, occurs⟩ := inner height least most
  exact ⟨0, occurs.unprefixed⟩

theorem binary (mark : Symbol) {operator : BinaryOperator} {level : Nat}
    (spelled : BinaryOperator.ofSymbol? mark = some operator)
    (binds : operator.looseness = level + 1) (any : 1 ≤ top)
    (inner : Fills (.operation level) levels top) :
    Fills (.operation (level + 1)) levels (top + levels) := by
  refine chain any ?_ fun spine height room occurs =>
    occurs.binary spelled binds room
  intro height least most
  obtain ⟨spine, occurs⟩ := inner height least most
  exact occurs.tighter

theorem loosest (any : 1 ≤ top) (inner : Fills .primary levels top) :
    Fills (.operation loosest) levels (top + 7 * levels) := by
  have suffixes := (inner.operand any).unprefixed
  have products := suffixes.binary .times rfl rfl (by omega)
  have sums := products.binary .plus rfl rfl (by omega)
  have orders := sums.binary .less rfl rfl (by omega)
  have equalities := orders.binary .equal rfl rfl (by omega)
  have both := equalities.binary .and rfl rfl (by omega)
  have either := both.binary .or rfl rfl (by omega)
  have total : top + 7 * levels =
      top + levels + levels + levels + levels + levels + levels + levels := by omega
  rw [total]
  exact either

theorem operation (inner : Fills (.operation MarkupTree.Parser.loosest) levels top) :
    Fills .expression (levels + 1) top := by
  intro height least most
  obtain ⟨spine, occurs⟩ := inner height least most
  exact ⟨0, occurs.operation⟩

theorem conditional (room : 0 < levels) (any : 1 ≤ top)
    (inner : Fills (.operation MarkupTree.Parser.loosest) levels top) :
    Fills .expression (levels + 1) (top + 1) := by
  intro height least most
  rcases Nat.eq_or_lt_of_le most with rfl | less
  · obtain ⟨spine, occurs⟩ := inner top any (Nat.le_refl _)
    exact ⟨0, occurs.conditional room⟩
  · exact inner.operation height least (by omega)

end Fills

theorem fills_tallest (levels : Nat) : Fills .expression levels (tallest levels) := by
  induction levels with
  | zero =>
      intro height least most
      rw [tallest] at most
      omega
  | succ levels ih =>
      have loosest := ih.primary.loosest (by omega)
      rcases Nat.eq_zero_or_pos levels with rfl | opened
      · exact loosest.operation
      · have chosen := loosest.conditional opened (by omega)
        rw [tallest_succ opened]
        have total : tallest levels + 7 * levels + 2 = tallest levels + 1 + 7 * levels + 1 := by omega
        rw [total]
        exact chosen

/-- The source derives an expression, with so many levels of nesting open at a time and so many
nodes piled up. -/
def Spells (source : String) (levels piled : Nat) : Prop :=
  ∃ tokens expr, ∃ derivation : Derivation .expression (tokens.map Located.token) expr,
    tokenize source = .ok tokens ∧ derivation.nesting = levels ∧ derivation.piled = piled

theorem exists_parse_iff_spells {source : String} {height : Nat} :
    (∃ expr, parse source = .ok expr ∧ expr.height = height) ↔
      ∃ levels, levels ≤ nestingLimit ∧ Spells source levels height := by
  constructor
  · rintro ⟨expr, read, rfl⟩
    rw [parse] at read
    cases lexed : tokenize source with
    | error cause =>
        rw [lexed] at read
        cases read
    | ok tokens =>
        rw [lexed] at read
        obtain ⟨derivation, fits⟩ := Parser.whole_eq_ok_iff.mp read
        exact ⟨_, fits, tokens, expr, derivation, lexed, rfl, derivation.height_eq_piled.symm⟩
  · rintro ⟨levels, fits, tokens, expr, derivation, lexed, rfl, rfl⟩
    refine ⟨expr, ?_, derivation.height_eq_piled⟩
    rw [parse, lexed]
    exact Parser.whole_eq_ok_iff.mpr ⟨derivation, fits⟩

theorem Spells.piled_le {source : String} {levels piled : Nat} (spells : Spells source levels piled) :
    piled ≤ tallest levels := by
  obtain ⟨tokens, expr, derivation, _, rfl, rfl⟩ := spells
  rw [← derivation.height_eq_piled]
  exact derivation.height_le _ (Nat.le_refl _)

theorem Occurs.spelled {levels spine height : Nat}
    (occurs : Occurs .expression levels spine height) :
    ∃ source opened, opened ≤ levels ∧ Spells source opened height := by
  obtain ⟨ts, expr, derivation, apart, fits, _, rfl⟩ := occurs
  obtain ⟨source, tokens, lexed, rfl⟩ := exists_tokenize_eq apart
  exact ⟨source, _, fits, tokens, expr, derivation, lexed, rfl, derivation.height_eq_piled.symm⟩

theorem height_le_of_parse {source : String} {expr : Expr} (read : parse source = .ok expr) :
    expr.height ≤ tallest nestingLimit := by
  obtain ⟨levels, fits, spells⟩ := exists_parse_iff_spells.mp ⟨expr, read, rfl⟩
  exact Nat.le_trans spells.piled_le (tallest_mono fits)

theorem parse_heights (height : Nat) :
    (∃ source expr, parse source = .ok expr ∧ expr.height = height) ↔
      1 ≤ height ∧ height ≤ 14239 := by
  have top : tallest nestingLimit = 14239 := by decide
  constructor
  · rintro ⟨source, expr, read, rfl⟩
    exact ⟨Expr.height_pos expr, top ▸ height_le_of_parse read⟩
  · rintro ⟨least, most⟩
    obtain ⟨spine, occurs⟩ := fills_tallest nestingLimit height least (by omega)
    obtain ⟨source, levels, fits, spells⟩ := occurs.spelled
    exact ⟨source, exists_parse_iff_spells.mpr ⟨levels, fits, spells⟩⟩

/--
The nesting limit bounds the height of what a source spells exactly if the nodes that it piles up are
within the limit whenever its levels are. They are if it opens four levels at most, but not in
general: what holds of every source is a bound of 14239.
-/
theorem parse_height_within_limit_iff (source : String) :
    ((∀ expr, parse source = .ok expr → expr.height ≤ nestingLimit) ↔
      ∀ levels piled, Spells source levels piled → levels ≤ nestingLimit →
        piled ≤ nestingLimit) ∧
    (∀ levels piled, Spells source levels piled → levels ≤ 4 → piled ≤ nestingLimit) ∧
    ∀ expr, parse source = .ok expr → expr.height ≤ 14239 := by
  refine ⟨⟨fun bounded levels piled spells fits => ?_, fun bounded expr read => ?_⟩, ?_, ?_⟩
  · obtain ⟨expr, read, rfl⟩ := exists_parse_iff_spells.mpr ⟨levels, fits, spells⟩
    exact bounded expr read
  · obtain ⟨levels, fits, spells⟩ := exists_parse_iff_spells.mp ⟨expr, read, rfl⟩
    exact bounded levels _ spells fits
  · intro levels piled spells few
    exact Nat.le_trans spells.piled_le (Nat.le_trans (tallest_mono few) (by decide))
  · intro expr read
    exact Nat.le_trans (height_le_of_parse read) (by decide)

theorem exists_negated (count : Nat) :
    ∃ expr, ∃ derivation : Derivation (.operation 0)
        (List.replicate count (.symbol .not) ++ [.identifier ['a']]) expr,
      derivation.nesting = count ∧ derivation.piled = count + 1 := by
  induction count with
  | zero => exact ⟨_, .leaf 0, rfl, rfl⟩
  | succ count ih =>
      obtain ⟨expr, derivation, levels, piled⟩ := ih
      have spelled : UnaryOperator.ofSymbol? .not = some .not := rfl
      exact ⟨_, .unary spelled derivation, congrArg (· + 1) levels, congrArg (· + 1) piled⟩

theorem scan_negations (count offset : Nat) :
    ∃ located, Lexer.scan offset (List.replicate count '!' ++ ['a', '+', 'a']) = .ok located ∧
      located.map Located.token = (List.replicate count (.symbol .not) ++ [.identifier ['a']]) ++
        .symbol .plus :: [.identifier ['a']] := by
  induction count generalizing offset with
  | zero =>
      refine ⟨[⟨.identifier ['a'], offset, offset + 1⟩, ⟨.symbol .plus, offset + 1, offset + 2⟩,
        ⟨.identifier ['a'], offset + 2, offset + 3⟩], ?_, rfl⟩
      have left : Lexer.lexeme? ['a', '+', 'a'] = some (.identifier ['a'], ['+', 'a']) := rfl
      have plus : Lexer.lexeme? ['+', 'a'] = some (.symbol .plus, ['a']) := rfl
      have right : Lexer.lexeme? ['a'] = some (.identifier ['a'], []) := rfl
      rw [List.replicate_zero, List.nil_append, Lexer.scan_lexeme rfl left,
        Lexer.scan_lexeme rfl plus, Lexer.scan_lexeme rfl right, Lexer.scan]
      rfl
  | succ count ih =>
      obtain ⟨located, scanned, tokens⟩ := ih (offset + 1)
      -- What follows is another mark or the name, so the mark is not the start of a longer one.
      have found : Lexer.lexeme? ('!' :: (List.replicate count '!' ++ ['a', '+', 'a'])) =
          some (.symbol .not, List.replicate count '!' ++ ['a', '+', 'a']) := by
        cases count <;> rfl
      refine ⟨⟨.symbol .not, offset, offset + 1⟩ :: located, ?_, congrArg _ tokens⟩
      rw [List.replicate_succ, List.cons_append, Lexer.scan_lexeme rfl found]
      change (Lexer.scan (offset + 1) _).map _ = _
      rw [scanned]
      rfl

/-- The sum opens one of the levels again that its prefix operators have given back. -/
theorem spells_negations (count : Nat) :
    Spells (String.ofList (List.replicate count '!' ++ ['a', '+', 'a'])) (max count 1 + 1)
      (count + 2) := by
  obtain ⟨located, scanned, tokens⟩ := scan_negations count 0
  obtain ⟨expr, negated, levels, piled⟩ := exists_negated count
  have spelled : BinaryOperator.ofSymbol? .plus = some .add := rfl
  refine ⟨located, ?_⟩
  rw [tokens, tokenize, String.toList_ofList]
  refine ⟨_, .operation (.tighter (.tighter (.tighter (.tighter (.binary spelled rfl
    (.tighter (.tighter negated)) (.leaf 1)))))), scanned, ?_, ?_⟩
  · simp [levels, Derivation.nesting_leaf]
  · simp [piled, Derivation.leaf]

/-- As many prefix operators as the limit allows, and a sum that opens one of their levels again. -/
def negationsInSum : String := String.ofList (List.replicate 63 '!' ++ ['a', '+', 'a'])

theorem negationsInSum_height :
    ∃ expr, parse negationsInSum = .ok expr ∧ expr.height = nestingLimit + 1 :=
  exists_parse_iff_spells.mpr ⟨64, Nat.le_refl _, spells_negations 63⟩

end MarkupTree
