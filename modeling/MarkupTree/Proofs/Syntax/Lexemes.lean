import Mathlib
import MarkupTree.Proofs.Syntax.Paths

/-!
The tokens of a source: each is one that some text begins with. So the names among them are words,
and their numbers can be read.
-/

namespace MarkupTree

namespace Decimal

theorem spanDigits_append {whole : List Char} (digits : ∀ c ∈ whole, isDigit c = true)
    (behind : List Char) (ends : ∀ c ∈ behind.head?, isDigit c = false) :
    spanDigits (whole ++ behind) = (whole, behind) := by
  rw [spanDigits, List.takeWhile_append_of_pos digits, List.dropWhile_append_of_pos digits]
  cases behind with
  | nil => simp
  | cons c rest =>
      have stops : isDigit c = false := ends c rfl
      simp [stops]

inductive IsDecimal : List Char → Prop
  | whole {digits : List Char} (given : digits ≠ []) (all : ∀ c ∈ digits, isDigit c = true) :
      IsDecimal digits
  | fraction {digits decimals : List Char} (given : digits ≠ [])
      (all : ∀ c ∈ digits, isDigit c = true) (others : ∀ c ∈ decimals, isDigit c = true) :
      IsDecimal (digits ++ '.' :: decimals)

theorem IsDecimal.exists_unsigned? {text : List Char} (decimal : IsDecimal text) :
    ∃ n, unsigned? text = some n := by
  cases decimal with
  | whole given all =>
      have spanned := spanDigits_append all [] (by simp)
      rw [List.append_nil] at spanned
      simp [unsigned?, spanned, given, exponent?]
  | @fraction digits decimals given all others =>
      have dot : ∀ c ∈ ('.' :: decimals).head?, isDigit c = false := by
        rintro c ⟨⟩
        decide
      have spanned := spanDigits_append all _ dot
      have ended := spanDigits_append others [] (by simp)
      rw [List.append_nil] at ended
      simp [unsigned?, spanned, ended, given, exponent?]

theorem IsDecimal.head {text : List Char} (decimal : IsDecimal text) :
    ∃ c rest, text = c :: rest ∧ isDigit c = true := by
  cases decimal with
  | whole given all =>
      obtain ⟨c, rest, rfl⟩ := List.exists_cons_of_ne_nil given
      exact ⟨c, rest, rfl, all c List.mem_cons_self⟩
  | fraction given all others =>
      obtain ⟨c, rest, rfl⟩ := List.exists_cons_of_ne_nil given
      exact ⟨c, _, rfl, all c List.mem_cons_self⟩

theorem toLower_digit {c : Char} (digit : isDigit c = true) : c.toLower = c := by
  simp only [isDigit, Bool.and_eq_true, decide_eq_true_eq, Char.le_def] at digit
  rw [Char.toLower, dif_neg]
  intro upper
  have low := UInt32.le_trans upper.1 digit.2
  exact absurd low (by decide)

theorem IsDecimal.exists_read? {text : List Char} (decimal : IsDecimal text) :
    ∃ n, read? text = some n := by
  obtain ⟨n, unsigned⟩ := decimal.exists_unsigned?
  obtain ⟨c, rest, rfl, digit⟩ := decimal.head
  have plain : sign (c :: rest) = (false, c :: rest) := by
    unfold sign
    split <;> simp_all [isDigit]
  have letters : (lowered (c :: rest)).toList = c :: rest.map Char.toLower := by
    rw [lowered, String.toList_ofList, List.map_cons, toLower_digit digit]
  refine ⟨negateIf false n, ?_⟩
  rw [read?, plain]
  dsimp only
  split
  iterate 3
    rename_i same
    rw [same] at letters
    simp at letters
    obtain ⟨rfl, -⟩ := letters
    cases digit
  · rw [unsigned]
    rfl

end Decimal

namespace Lexer

def IsLexeme (token : Token) : Prop := ∃ text behind, lexeme? text = some (token, behind)

theorem scan_lexemes {offset : Nat} {cs : List Char} {tokens : List Located}
    (scanned : scan offset cs = .ok tokens) : ∀ located ∈ tokens, IsLexeme located.token := by
  fun_induction scan offset cs generalizing tokens with
  | case1 =>
      cases scanned
      simp
  | case2 offset c rest blank ih => exact ih scanned
  | case3 => cases scanned
  | case4 offset c rest visible token behind found stop =>
      rename_i ih
      cases inner : scan stop behind with
      | error cause => simp [inner, Except.map] at scanned
      | ok others =>
          simp only [inner, Except.map, Except.ok.injEq] at scanned
          subst scanned
          exact List.forall_mem_cons.mpr ⟨⟨_, _, found⟩, ih inner⟩

theorem lexeme?_cases {text behind : List Char} {token : Token}
    (found : lexeme? text = some (token, behind)) :
    (∃ (c : Char) (rest : List Char), text = c :: rest ∧ isWordStart c = true ∧
      token = word (c :: rest.takeWhile isWordPart) ∧ behind = rest.dropWhile isWordPart) ∨
    (∃ (c : Char) (rest : List Char), text = c :: rest ∧ Decimal.isDigit c = true ∧
      token = .number (numeral (c :: rest)).1 ∧ behind = (numeral (c :: rest)).2) ∨
    (∃ (quote : Char) (rest body : List Char), text = quote :: rest ∧
      (quote = '"' ∨ quote = '\'') ∧ quoted quote rest = some (body, behind) ∧
      token = .string (quote :: body)) ∨
    ∃ mark, symbol? text = some mark ∧ token = .symbol mark ∧
      behind = text.drop mark.spelling.length := by
  cases text with
  | nil => cases found
  | cons c rest =>
      rw [lexeme?] at found
      split at found
      · rename_i start
        cases found
        exact .inl ⟨c, rest, rfl, start, rfl, rfl⟩
      · split at found
        · rename_i digit
          cases found
          exact .inr (.inl ⟨c, rest, rfl, digit, rfl, rfl⟩)
        · split at found
          · rename_i mark
            obtain ⟨⟨body, _⟩, closed, same⟩ := Option.map_eq_some_iff.mp found
            cases same
            exact .inr (.inr (.inl ⟨c, rest, body, rfl, mark, closed, rfl⟩))
          · obtain ⟨mark, longest, same⟩ := Option.map_eq_some_iff.mp found
            cases same
            exact .inr (.inr (.inr ⟨mark, longest, rfl, rfl⟩))

theorem numeral_decimal {c : Char} (digit : Decimal.isDigit c = true) (rest : List Char) :
    Decimal.IsDecimal (numeral (c :: rest)).1 := by
  have all (cs : List Char) : ∀ d ∈ cs.takeWhile Decimal.isDigit, Decimal.isDigit d = true :=
    fun d member => List.all_eq_true.mp List.all_takeWhile d member
  have spanned : Decimal.spanDigits (c :: rest) =
      (c :: rest.takeWhile Decimal.isDigit, rest.dropWhile Decimal.isDigit) := by
    simp [Decimal.spanDigits, digit]
  have given : c :: rest.takeWhile Decimal.isDigit ≠ [] := List.cons_ne_nil _ _
  have leading : ∀ d ∈ c :: rest.takeWhile Decimal.isDigit, Decimal.isDigit d = true :=
    List.forall_mem_cons.mpr ⟨digit, all rest⟩
  unfold numeral
  rw [spanned]
  split
  · rename_i whole next tail same
    obtain ⟨rfl, -⟩ := Prod.mk.inj same
    split
    · rename_i decimal
      exact .fraction given leading (List.forall_mem_cons.mpr ⟨decimal, all tail⟩)
    · exact .whole given leading
  · rename_i whole tail _ same
    obtain ⟨rfl, -⟩ := Prod.mk.inj same
    exact .whole given leading

namespace IsLexeme

variable {token : Token}

theorem isWord (lexeme : IsLexeme token) {name : String}
    (named : Parser.propertyOf token = some name) : IsWord name.toList := by
  obtain ⟨text, behind, found⟩ := lexeme
  obtain ⟨c, rest, _, start, rfl, _⟩ | ⟨c, rest, _, digit, rfl, _⟩ |
    ⟨quote, _, body, _, _, _, rfl⟩ | ⟨mark, _, rfl, _⟩ := lexeme?_cases found
  · rw [propertyOf_word] at named
    obtain rfl := Option.some.inj named
    rw [String.toList_ofList]
    simp [IsWord, start]
  all_goals cases named

theorem exists_read (lexeme : IsLexeme token) {digits : List Char} (number : token = .number digits) :
    ∃ n, Decimal.read? digits = some n := by
  obtain ⟨text, behind, found⟩ := lexeme
  obtain ⟨c, rest, _, start, rfl, _⟩ | ⟨c, rest, _, digit, rfl, _⟩ |
    ⟨quote, _, body, _, _, _, rfl⟩ | ⟨mark, _, rfl, _⟩ := lexeme?_cases found
  · unfold word at number
    split at number <;> cases number
  · cases number
    exact (numeral_decimal digit rest).exists_read?
  all_goals cases number

theorem byteSize_pos (lexeme : IsLexeme token) : 0 < byteSize token.spelling := by
  have some (c : Char) (cs : List Char) : 0 < byteSize (c :: cs) :=
    Nat.add_pos_left c.utf8Size_pos (byteSize cs)
  obtain ⟨text, behind, found⟩ := lexeme
  obtain ⟨c, rest, _, start, rfl, _⟩ | ⟨c, rest, _, digit, rfl, _⟩ |
    ⟨quote, _, body, _, _, _, rfl⟩ | ⟨mark, _, rfl, _⟩ := lexeme?_cases found
  · unfold word
    split
    · rename_i keyword _
      match keyword with
      | .bool true | .bool false | .null | .undefined => exact some _ _
    · exact some _ _
  · obtain ⟨d, digits, given, _⟩ := (numeral_decimal digit rest).head
    rw [Token.spelling, given]
    exact some d digits
  · exact some quote body
  · cases mark <;> exact some _ _

end IsLexeme

theorem scan_starts {offset : Nat} {cs : List Char} {tokens : List Located}
    (scanned : scan offset cs = .ok tokens) :
    (∀ located ∈ tokens, offset ≤ located.start) ∧
      tokens.Pairwise fun before after => before.start < after.start := by
  fun_induction scan offset cs generalizing tokens with
  | case1 =>
      cases scanned
      simp
  | case2 offset c rest blank ih =>
      obtain ⟨later, increasing⟩ := ih scanned
      exact ⟨fun located member => Nat.le_trans (Nat.le_add_right _ _) (later located member),
        increasing⟩
  | case3 => cases scanned
  | case4 offset c rest visible token behind found stop =>
      rename_i ih
      cases inner : scan stop behind with
      | error cause => simp [inner, Except.map] at scanned
      | ok others =>
          simp only [inner, Except.map, Except.ok.injEq] at scanned
          subst scanned
          obtain ⟨later, increasing⟩ := ih inner
          have beyond : offset < stop := Nat.lt_add_of_pos_right (IsLexeme.byteSize_pos ⟨_, _, found⟩)
          have after : ∀ located ∈ others, offset < located.start := fun located member =>
            Nat.lt_of_lt_of_le beyond (later located member)
          constructor
          · exact List.forall_mem_cons.mpr ⟨Nat.le_refl _, fun located member =>
              Nat.le_of_lt (after located member)⟩
          · exact List.pairwise_cons.mpr ⟨after, increasing⟩

end Lexer

theorem exists_derives_of_parse {source : String} {expr : Expr} (read : parse source = .ok expr) :
    ∃ located, tokenize source = .ok located ∧ Derives (located.map Located.token) expr ∧
      ∀ token ∈ located.map Located.token, Lexer.IsLexeme token := by
  rw [parse] at read
  cases lexed : tokenize source with
  | error cause =>
      rw [lexed] at read
      cases read
  | ok located =>
      rw [lexed] at read
      exact ⟨located, rfl, Parser.derives_of_whole_eq_ok read,
        List.forall_mem_map.mpr (Lexer.scan_lexemes lexed)⟩

end MarkupTree
