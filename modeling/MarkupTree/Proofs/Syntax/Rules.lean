import Mathlib
import MarkupTree.Proofs.Syntax.Lexemes

/-!
The rules of tokens, as languages. What the lexer takes at the start of a text is the longest text of
any rule that stands there, and it takes nothing only where no rule has a text.
-/

namespace MarkupTree

namespace Lexer

open scoped Computability

def letter (kind : Char → Prop) : Language Char := {text | ∃ c, kind c ∧ text = [c]}

def IsLetter (c : Char) : Prop := 'a' ≤ c ∧ c ≤ 'z' ∨ 'A' ≤ c ∧ c ≤ 'Z' ∨ c = '_' ∨ c = '$'

def IsDigit (c : Char) : Prop := '0' ≤ c ∧ c ≤ '9'

def words : Language Char := letter IsLetter * (letter fun c => IsLetter c ∨ IsDigit c)∗

def digits : Language Char := letter IsDigit * (letter IsDigit)∗

def numbers : Language Char := digits * (1 + letter (· = '.') * digits)

def quotable (quote : Char) : Language Char :=
  letter (fun c => c ≠ quote ∧ c ≠ '\\') + letter (· = '\\') * letter (· ≠ '\n')

def closed (quote : Char) : Language Char := (quotable quote)∗ * letter (· = quote)

def quotations (quote : Char) : Language Char := letter (· = quote) * closed quote

inductive Rule where
  | keyword (word : Keyword)
  | identifier
  | doubleQuoted
  | singleQuoted
  | number
  | symbol (mark : Symbol)

def Rule.texts : Rule → Language Char
  | .keyword word => {word.spelling}
  | .identifier => words
  | .doubleQuoted => quotations '"'
  | .singleQuoted => quotations '\''
  | .number => numbers
  | .symbol mark => {mark.spelling}

def Rule.token : Rule → List Char → Token
  | .keyword word, _ => .keyword word
  | .identifier, text => .identifier text
  | .doubleQuoted, text | .singleQuoted, text => .string text
  | .number, text => .number text
  | .symbol mark, _ => .symbol mark

/-- A rule makes the token of its spelling; what is spelled like a keyword is that keyword. -/
structure WellSpelled (token : Token) : Prop where
  ruled : ∃ rule : Rule, token.spelling ∈ rule.texts ∧ rule.token token.spelling = token
  free : ∀ word : Keyword, word.spelling = token.spelling → token = .keyword word

/-- A token that is the longest match of any rule at the start of a text. -/
structure Leads (token : Token) (text : List Char) : Prop where
  wellSpelled : WellSpelled token
  starts : token.spelling <+: text
  longest : ∀ (rule : Rule) (other : List Char), other ∈ rule.texts → other <+: text →
    other.length ≤ token.spelling.length

section Languages

variable {kind : Char → Prop} {text other : List Char}

theorem mem_letters : text ∈ (letter kind)∗ ↔ ∀ c ∈ text, kind c := by
  rw [Language.mem_kstar]
  constructor
  · rintro ⟨parts, rfl, each⟩ c member
    obtain ⟨part, present, own⟩ := List.mem_flatten.mp member
    obtain ⟨d, allowed, rfl⟩ := each part present
    rwa [List.mem_singleton.mp own]
  · intro each
    refine ⟨text.map fun c => [c], by rw [← List.flatMap_def, List.flatMap_singleton'], ?_⟩
    intro part present
    obtain ⟨c, member, rfl⟩ := List.mem_map.mp present
    exact ⟨c, each c member, rfl⟩

theorem cons_mem_letter_mul {language : Language Char} {c : Char} :
    c :: text ∈ letter kind * language ↔ kind c ∧ text ∈ language := by
  rw [Language.mem_mul]
  constructor
  · rintro ⟨_, ⟨d, allowed, rfl⟩, rest, member, same⟩
    obtain ⟨rfl, rfl⟩ := List.cons.inj same
    exact ⟨allowed, member⟩
  · rintro ⟨allowed, member⟩
    exact ⟨[c], ⟨c, allowed, rfl⟩, text, member, rfl⟩

theorem nil_notMem_letter_mul {language : Language Char} : [] ∉ letter kind * language := by
  rintro ⟨_, ⟨c, _, rfl⟩, rest, _, same⟩
  cases same

end Languages

theorem isWordStart_iff {c : Char} : isWordStart c = true ↔ IsLetter c := by
  simp only [isWordStart, IsLetter, Char.isAlpha, Char.isUpper, Char.isLower, Bool.or_eq_true,
    Bool.and_eq_true, decide_eq_true_eq, Char.le_def, ge_iff_le]
  tauto

theorem isDigit_iff {c : Char} : Decimal.isDigit c = true ↔ IsDigit c := by
  simp [Decimal.isDigit, IsDigit]

theorem isWordPart_iff {c : Char} : isWordPart c = true ↔ IsLetter c ∨ IsDigit c := by
  rw [isWordPart, Bool.or_eq_true, isWordStart_iff, isDigit_iff]

theorem mem_words {text : List Char} : text ∈ words ↔ IsWord text := by
  cases text with
  | nil => exact iff_of_false nil_notMem_letter_mul id
  | cons c rest =>
      rw [words, cons_mem_letter_mul, mem_letters, IsWord, Bool.and_eq_true, List.all_eq_true]
      simp only [isWordStart_iff, isWordPart_iff]

theorem mem_digits {text : List Char} :
    text ∈ digits ↔ text ≠ [] ∧ ∀ c ∈ text, Decimal.isDigit c = true := by
  cases text with
  | nil => exact iff_of_false nil_notMem_letter_mul fun given => given.1 rfl
  | cons c rest =>
      rw [digits, cons_mem_letter_mul, mem_letters]
      simp [isDigit_iff]

theorem mem_numbers {text : List Char} :
    text ∈ numbers ↔ ∃ whole ∈ digits, text = whole ∨
      ∃ decimals ∈ digits, text = whole ++ '.' :: decimals := by
  constructor
  · rintro ⟨whole, isWhole, tail, none | fraction, rfl⟩
    · obtain rfl := (Language.mem_one tail).mp none
      exact ⟨whole, isWhole, .inl (List.append_nil whole)⟩
    · obtain ⟨_, ⟨c, rfl, rfl⟩, decimals, isDecimal, rfl⟩ := fraction
      exact ⟨whole, isWhole, .inr ⟨decimals, isDecimal, rfl⟩⟩
  · rintro ⟨whole, isWhole, rfl | ⟨decimals, isDecimal, rfl⟩⟩
    · exact ⟨text, isWhole, [], .inl rfl, List.append_nil _⟩
    · exact ⟨whole, isWhole, '.' :: decimals, .inr (cons_mem_letter_mul.mpr ⟨rfl, isDecimal⟩), rfl⟩

section Words

variable {text : List Char}

theorem spelling_word (letters : List Char) : (word letters).spelling = letters := by
  unfold word
  split
  · rename_i keyword found
    have same : keyword.spelling = letters := by simpa using List.find?_some found
    exact same
  · rfl

theorem word_spelling (keyword : Keyword) : word keyword.spelling = .keyword keyword := by
  cases keyword with
  | bool flag => cases flag <;> rfl
  | null | undefined => rfl

theorem isWord_spelling (keyword : Keyword) : IsWord keyword.spelling := by
  cases keyword with
  | bool flag => cases flag <;> decide
  | null | undefined => decide

theorem wellSpelled_word (isWord : IsWord text) : WellSpelled (word text) := by
  by_cases reserved : ∃ keyword : Keyword, keyword.spelling = text
  · obtain ⟨keyword, rfl⟩ := reserved
    rw [word_spelling]
    refine ⟨⟨.keyword keyword, rfl, rfl⟩, fun other same => ?_⟩
    rw [← word_spelling other, same]
    exact (word_spelling keyword).symm
  · rw [word_eq_identifier (not_exists.mp reserved)]
    exact ⟨⟨.identifier, mem_words.mpr isWord, rfl⟩, fun other same => absurd ⟨other, same⟩ reserved⟩

theorem exists_lexeme_of_isWord (isWord : IsWord text) (behind : List Char) :
    ∃ letters rest, lexeme? (text ++ behind) = some (word letters, rest) ∧ text <+: letters := by
  obtain _ | ⟨c, cs⟩ := text
  · exact False.elim isWord
  obtain ⟨start, all⟩ := Bool.and_eq_true_iff.mp isWord
  have parts : ∀ d ∈ cs, isWordPart d = true := List.all_eq_true.mp all
  refine ⟨c :: (cs ++ behind).takeWhile isWordPart, (cs ++ behind).dropWhile isWordPart, ?_, ?_⟩
  · rw [List.cons_append, lexeme?, if_pos start]
  · rw [List.takeWhile_append_of_pos parts, ← List.cons_append]
    exact List.prefix_append _ _

end Words

section Numbers

variable {text : List Char}

theorem takeWhile_mem_digits {c : Char} (digit : Decimal.isDigit c = true) (rest : List Char) :
    c :: rest.takeWhile Decimal.isDigit ∈ digits :=
  mem_digits.mpr ⟨List.cons_ne_nil _ _, List.forall_mem_cons.mpr
    ⟨digit, fun _ member => List.all_eq_true.mp List.all_takeWhile _ member⟩⟩

theorem numeral_parts {c : Char} (digit : Decimal.isDigit c = true) (rest : List Char) :
    (numeral (c :: rest)).1 ++ (numeral (c :: rest)).2 = c :: rest ∧
      (numeral (c :: rest)).1 ∈ numbers := by
  have isWhole := takeWhile_mem_digits digit rest
  have parted := List.takeWhile_append_dropWhile (p := Decimal.isDigit) (l := c :: rest)
  have spanned : Decimal.spanDigits (c :: rest) =
      (c :: rest.takeWhile Decimal.isDigit, (c :: rest).dropWhile Decimal.isDigit) := by
    rw [Decimal.spanDigits, List.takeWhile_cons_of_pos digit]
  rw [List.takeWhile_cons_of_pos digit] at parted
  unfold numeral
  rw [spanned]
  split
  · rename_i whole next tail same
    obtain ⟨rfl, follows⟩ := Prod.mk.inj same
    rw [follows] at parted
    split
    · rename_i decimal
      have tails := List.takeWhile_append_dropWhile (p := Decimal.isDigit) (l := tail)
      refine ⟨?_, mem_numbers.mpr ⟨_, isWhole, .inr ⟨_, takeWhile_mem_digits decimal tail, rfl⟩⟩⟩
      rw [← parted]
      simp [tails]
    · exact ⟨parted, mem_numbers.mpr ⟨_, isWhole, .inl rfl⟩⟩
  · rename_i whole tail _ same
    obtain ⟨rfl, rfl⟩ := Prod.mk.inj same
    exact ⟨parted, mem_numbers.mpr ⟨_, isWhole, .inl rfl⟩⟩

theorem spanDigits_prefix_numeral (text : List Char) :
    (Decimal.spanDigits text).1 <+: (numeral text).1 := by
  unfold numeral
  split
  · rename_i whole next tail same
    rw [same]
    split
    · exact List.prefix_append _ _
    · exact List.prefix_rfl
  · rename_i same
    rw [same]

theorem prefix_numeral (number : text ∈ numbers) (behind : List Char) :
    text <+: (numeral (text ++ behind)).1 := by
  obtain ⟨whole, isWhole, rfl | ⟨decimals, isDecimal, rfl⟩⟩ := mem_numbers.mp number
  · refine .trans ?_ (spanDigits_prefix_numeral _)
    rw [Decimal.spanDigits, List.takeWhile_append_of_pos (mem_digits.mp isWhole).2]
    exact List.prefix_append _ _
  · obtain ⟨given, all⟩ := mem_digits.mp isDecimal
    obtain ⟨d, others, rfl⟩ := List.exists_cons_of_ne_nil given
    obtain ⟨digit, more⟩ := List.forall_mem_cons.mp all
    have spanned := Decimal.spanDigits_append (mem_digits.mp isWhole).2
      ('.' :: d :: (others ++ behind)) (by rintro c ⟨⟩; decide)
    have letters : whole ++ '.' :: d :: others ++ behind =
        whole ++ '.' :: d :: (others ++ behind) := by simp
    rw [letters, numeral, spanned]
    simp only [digit, if_true]
    rw [List.takeWhile_append_of_pos more]
    exact ⟨behind.takeWhile Decimal.isDigit, by simp⟩

theorem not_isWordStart_of_isDigit {c : Char} (digit : Decimal.isDigit c = true) :
    isWordStart c = false := by
  rw [← Bool.not_eq_true, isWordStart_iff]
  rw [isDigit_iff] at digit
  simp only [IsDigit, IsLetter, Char.le_def, UInt32.le_iff_toNat_le] at digit ⊢
  rintro (⟨low, _⟩ | ⟨low, _⟩ | rfl | rfl)
  · exact absurd (Nat.le_trans low digit.2) (by decide)
  · exact absurd (Nat.le_trans low digit.2) (by decide)
  · exact absurd digit.2 (by decide)
  · exact absurd digit.1 (by decide)

theorem exists_lexeme_of_number (number : text ∈ numbers) (behind : List Char) :
    ∃ longer rest, lexeme? (text ++ behind) = some (.number longer, rest) ∧ text <+: longer := by
  obtain ⟨c, cs, rfl, digit⟩ : ∃ c cs, text = c :: cs ∧ Decimal.isDigit c = true := by
    obtain ⟨whole, isWhole, shape⟩ := mem_numbers.mp number
    obtain ⟨given, all⟩ := mem_digits.mp isWhole
    obtain ⟨c, cs, rfl⟩ := List.exists_cons_of_ne_nil given
    obtain rfl | ⟨decimals, _, rfl⟩ := shape
    · exact ⟨c, cs, rfl, all c List.mem_cons_self⟩
    · exact ⟨c, _, rfl, all c List.mem_cons_self⟩
  refine ⟨_, (numeral (c :: (cs ++ behind))).2, ?_, prefix_numeral number behind⟩
  rw [List.cons_append, lexeme?, not_isWordStart_of_isDigit digit, if_neg Bool.false_ne_true,
    if_pos digit]

end Numbers

section Quotations

variable {quote : Char} {text behind : List Char}

theorem append_mem_closed {piece : List Char} (quoted : piece ∈ quotable quote)
    (ends : text ∈ closed quote) : piece ++ text ∈ closed quote := by
  obtain ⟨_, others, closer, isCloser, rfl⟩ := ends
  obtain ⟨pieces, rfl, each⟩ := Language.mem_kstar.mp others
  have more : piece ++ pieces.flatten ∈ (quotable quote)∗ :=
    Language.mem_kstar.mpr ⟨piece :: pieces, rfl, List.forall_mem_cons.mpr ⟨quoted, each⟩⟩
  exact ⟨piece ++ pieces.flatten, more, closer, isCloser, List.append_assoc _ _ _⟩

theorem quoted_parts {body : List Char} (found : quoted quote text = some (body, behind)) :
    body ++ behind = text ∧ body ∈ closed quote := by
  fun_induction quoted quote text generalizing body behind with
  | case1 => cases found
  | case2 => cases found
  | case3 mark rest other ih =>
      obtain ⟨⟨inner, after⟩, read, same⟩ := Option.map_eq_some_iff.mp found
      cases same
      obtain ⟨parted, ends⟩ := ih read
      have escaped : ['\\', mark] ∈ quotable quote :=
        .inr (cons_mem_letter_mul.mpr ⟨rfl, mark, other, rfl⟩)
      exact ⟨by simp [parted], append_mem_closed escaped ends⟩
  | case4 =>
      cases found
      exact ⟨rfl, [], Language.nil_mem_kstar _, [_], ⟨_, rfl, rfl⟩, rfl⟩
  | case5 => cases found
  | case6 c rest _ _ inside visible ih =>
      obtain ⟨⟨inner, after⟩, read, same⟩ := Option.map_eq_some_iff.mp found
      cases same
      obtain ⟨parted, ends⟩ := ih read
      have plain : [c] ∈ quotable quote := .inl ⟨c, ⟨inside, visible⟩, rfl⟩
      exact ⟨by simp [parted], append_mem_closed plain ends⟩

theorem quoted_append (visible : quote ≠ '\\') (ends : text ∈ closed quote) (behind : List Char) :
    quoted quote (text ++ behind) = some (text, behind) := by
  obtain ⟨body, pieces, _, ⟨_, rfl, rfl⟩, rfl⟩ := ends
  obtain ⟨parts, rfl, each⟩ := Language.mem_kstar.mp pieces
  clear pieces
  induction parts with
  | nil => simp [quoted, visible]
  | cons part rest ih =>
      obtain ⟨own, others⟩ := List.forall_mem_cons.mp each
      have read := ih others
      simp only [List.append_assoc, List.singleton_append] at read
      obtain ⟨c, ⟨inside, plain⟩, rfl⟩ | ⟨_, ⟨_, rfl, rfl⟩, _, ⟨mark, other, rfl⟩, rfl⟩ := own
      · simp [quoted, inside, plain, read]
      · simp [quoted, read]

theorem lexeme?_of_mem_quotations (kind : quote = '"' ∨ quote = '\'')
    (member : text ∈ quotations quote) (behind : List Char) :
    lexeme? (text ++ behind) = some (.string text, behind) := by
  have visible : quote ≠ '\\' := by rcases kind with rfl | rfl <;> decide
  obtain ⟨_, ⟨c, same, rfl⟩, rest, ends, rfl⟩ := member
  subst same
  change lexeme? (c :: (rest ++ behind)) = _
  rw [lexeme?_quote kind, quoted_append visible ends]
  rfl

end Quotations

section Symbols

theorem mem_longestFirst (mark : Symbol) : mark ∈ Symbol.longestFirst := by
  cases mark <;> decide

theorem symbol_eq_of_spelling {mark other : Symbol} (same : mark.spelling = other.spelling) :
    mark = other := by
  have distinct : (Symbol.longestFirst.map Symbol.spelling).Nodup := by decide
  exact List.inj_on_of_nodup_map distinct (mem_longestFirst mark) (mem_longestFirst other) same

theorem symbol?_parts {text : List Char} {mark : Symbol} (found : symbol? text = some mark) :
    mark.spelling <+: text ∧
      ∀ other : Symbol, other.spelling <+: text → other.spelling.length ≤ mark.spelling.length := by
  have ordered : Symbol.longestFirst.Pairwise fun longer shorter =>
      shorter.spelling.length ≤ longer.spelling.length := by decide
  obtain ⟨starts, before, after, all, missing⟩ := List.find?_eq_some_iff_append.mp found
  refine ⟨List.isPrefixOf_iff_prefix.mp starts, fun other stands => ?_⟩
  rw [all] at ordered
  have later := (List.pairwise_cons.mp (List.pairwise_append.mp ordered).2.1).1
  have present := mem_longestFirst other
  rw [all, List.mem_append, List.mem_cons] at present
  obtain earlier | rfl | behind := present
  · have absent := missing other earlier
    rw [List.isPrefixOf_iff_prefix.mpr stands] at absent
    cases absent
  · exact Nat.le_refl _
  · exact later other behind

theorem exists_lexeme_of_symbol (mark : Symbol) (behind : List Char) :
    ∃ longer rest, lexeme? (mark.spelling ++ behind) = some (.symbol longer, rest) ∧
      mark.spelling <+: longer.spelling := by
  have first : lexeme? (mark.spelling ++ behind) = (symbol? (mark.spelling ++ behind)).map
      fun longer => (.symbol longer, (mark.spelling ++ behind).drop longer.spelling.length) := by
    cases mark <;> rfl
  have stands : mark.spelling <+: mark.spelling ++ behind := List.prefix_append _ _
  have found : (symbol? (mark.spelling ++ behind)).isSome := List.find?_isSome.mpr
    ⟨mark, mem_longestFirst mark, List.isPrefixOf_iff_prefix.mpr stands⟩
  obtain ⟨longer, read⟩ := Option.isSome_iff_exists.mp found
  obtain ⟨starts, longest⟩ := symbol?_parts read
  refine ⟨longer, _, by rw [first, read]; rfl, ?_⟩
  exact List.prefix_of_prefix_length_le stands starts (longest mark stands)

end Symbols

theorem exists_lexeme_of_mem_texts {rule : Rule} {text : List Char} (member : text ∈ rule.texts)
    (behind : List Char) :
    ∃ token rest, lexeme? (text ++ behind) = some (token, rest) ∧ text <+: token.spelling ∧
      (token.spelling = text → token = rule.token text ∨ ∃ word, token = .keyword word) := by
  cases rule with
  | keyword word =>
      obtain rfl : text = word.spelling := member
      obtain ⟨letters, rest, found, starts⟩ := exists_lexeme_of_isWord (isWord_spelling word) behind
      refine ⟨_, rest, found, by rwa [spelling_word], fun same => .inl ?_⟩
      rw [spelling_word] at same
      rw [same, word_spelling]
      rfl
  | identifier =>
      obtain ⟨letters, rest, found, starts⟩ := exists_lexeme_of_isWord (mem_words.mp member) behind
      refine ⟨_, rest, found, by rwa [spelling_word], fun same => ?_⟩
      rw [spelling_word] at same
      subst same
      unfold Lexer.word
      split
      · exact .inr ⟨_, rfl⟩
      · exact .inl rfl
  | doubleQuoted =>
      exact ⟨_, behind, lexeme?_of_mem_quotations (.inl rfl) member behind, List.prefix_rfl,
        fun _ => .inl rfl⟩
  | singleQuoted =>
      exact ⟨_, behind, lexeme?_of_mem_quotations (.inr rfl) member behind, List.prefix_rfl,
        fun _ => .inl rfl⟩
  | number =>
      obtain ⟨longer, rest, found, starts⟩ := exists_lexeme_of_number member behind
      exact ⟨_, rest, found, starts, fun same => .inl (congrArg Token.number same)⟩
  | symbol mark =>
      obtain rfl : text = mark.spelling := member
      obtain ⟨longer, rest, found, starts⟩ := exists_lexeme_of_symbol mark behind
      exact ⟨_, rest, found, starts, fun same => .inl (congrArg Token.symbol (symbol_eq_of_spelling same))⟩

theorem wellSpelled_of_head (rule : Rule) {token : Token} {c : Char} {cs : List Char}
    (begins : token.spelling = c :: cs) (other : isWordStart c = false)
    (member : token.spelling ∈ rule.texts) (made : rule.token token.spelling = token) :
    WellSpelled token := by
  refine ⟨⟨rule, member, made⟩, fun word same => ?_⟩
  have isWord := isWord_spelling word
  rw [same, begins, IsWord, other, Bool.false_and] at isWord
  cases isWord

theorem lexeme?_parts {text behind : List Char} {token : Token}
    (found : lexeme? text = some (token, behind)) :
    token.spelling ++ behind = text ∧ WellSpelled token := by
  obtain ⟨c, rest, rfl, start, rfl, rfl⟩ | ⟨c, rest, rfl, digit, rfl, rfl⟩ |
    ⟨quote, rest, body, rfl, kind, ends, rfl⟩ | ⟨mark, longest, rfl, rfl⟩ := lexeme?_cases found
  · have isWord : IsWord (c :: rest.takeWhile isWordPart) :=
      Bool.and_eq_true_iff.mpr ⟨start, List.all_takeWhile⟩
    rw [spelling_word, List.cons_append, List.takeWhile_append_dropWhile]
    exact ⟨rfl, wellSpelled_word isWord⟩
  · obtain ⟨parted, member⟩ := numeral_parts digit rest
    obtain ⟨d, cs, begins, first⟩ := (numeral_decimal digit rest).head
    exact ⟨parted, wellSpelled_of_head .number begins (not_isWordStart_of_isDigit first)
      member rfl⟩
  · obtain ⟨parted, isClosed⟩ := quoted_parts ends
    refine ⟨congrArg (quote :: ·) parted, ?_⟩
    have member : quote :: body ∈ quotations quote := cons_mem_letter_mul.mpr ⟨rfl, isClosed⟩
    rcases kind with rfl | rfl
    · exact wellSpelled_of_head .doubleQuoted rfl rfl member rfl
    · exact wellSpelled_of_head .singleQuoted rfl rfl member rfl
  · obtain ⟨⟨after, rfl⟩, _⟩ := symbol?_parts longest
    have head : ∃ c cs, mark.spelling = c :: cs ∧ isWordStart c = false := by
      cases mark <;> exact ⟨_, _, rfl, rfl⟩
    obtain ⟨c, cs, begins, other⟩ := head
    refine ⟨?_, wellSpelled_of_head (.symbol mark) begins other rfl rfl⟩
    rw [List.drop_left]
    rfl

theorem lexeme?_eq_some_iff {text behind : List Char} {token : Token} :
    lexeme? text = some (token, behind) ↔ token.spelling ++ behind = text ∧ Leads token text := by
  constructor
  · intro found
    obtain ⟨parted, wellSpelled⟩ := lexeme?_parts found
    refine ⟨parted, wellSpelled, ⟨behind, parted⟩, ?_⟩
    rintro rule other member ⟨after, rfl⟩
    obtain ⟨longest, rest, read, starts, _⟩ := exists_lexeme_of_mem_texts member after
    rw [found] at read
    cases read
    exact starts.length_le
  · rintro ⟨parted, ⟨⟨rule, member, made⟩, free⟩, _, longest⟩
    obtain ⟨other, rest, read, starts, kinds⟩ := exists_lexeme_of_mem_texts member behind
    rw [parted] at read
    obtain ⟨parted', ⟨rule', member', _⟩, _⟩ := lexeme?_parts read
    have same := starts.eq_of_length_le (longest rule' _ member' ⟨rest, parted'⟩)
    have equal : other = token := by
      obtain rfl | ⟨word, rfl⟩ := kinds same.symm
      · exact made
      · exact (free word same.symm).symm
    subst equal
    rw [read, List.append_cancel_left (parted'.trans parted.symm)]

theorem lexeme?_eq_none_iff {text : List Char} :
    lexeme? text = none ↔ ∀ (rule : Rule) (other : List Char), other ∈ rule.texts → ¬ other <+: text := by
  constructor
  · rintro missing rule other member ⟨after, rfl⟩
    obtain ⟨token, rest, found, _⟩ := exists_lexeme_of_mem_texts member after
    rw [missing] at found
    cases found
  · intro ruleless
    cases found : lexeme? text with
    | none => rfl
    | some result =>
        obtain ⟨parted, ⟨rule, member, _⟩, _⟩ := lexeme?_parts found
        exact absurd ⟨_, parted⟩ (ruleless rule _ member)

end Lexer

end MarkupTree
