import Mathlib.Data.List.Forall2
import MarkupTree.Proofs.Syntax.Paths

/-!
Writing expressions. A text is written for an expression if, wherever no word goes on behind it, it
is read as tokens that derive the expression. Such texts can be put together: between commas in the
brackets of an array, or as the arguments of a utility.
-/

namespace MarkupTree

namespace Quoted

variable {quote : Char}

def escape (quote : Char) (text : List Char) : List Char :=
  text.flatMap fun c => if c = quote ∨ c = '\\' then ['\\', c] else [c]

theorem escape_cons (quote c : Char) (text : List Char) :
    escape quote (c :: text) =
      (if c = quote ∨ c = '\\' then ['\\', c] else [c]) ++ escape quote text := rfl

theorem resolve_escape (kind : quote = '"' ∨ quote = '\'') (text : List Char) :
    resolve (escape quote text) = text := by
  induction text with
  | nil => rfl
  | cons c rest ih =>
      rw [escape_cons]
      by_cases special : c = quote ∨ c = '\\'
      · have plain : c ≠ 'n' ∧ c ≠ 't' ∧ c ≠ 'r' := by
          rcases kind with rfl | rfl <;> rcases special with rfl | rfl <;> decide
        simp [special, resolve, plain, ih]
      · have visible : c ≠ '\\' := fun same => special (.inr same)
        rw [if_neg special]
        simp [resolve, visible, ih]

theorem decode_encode (kind : quote = '"' ∨ quote = '\'') (text : List Char) :
    decode (encode quote text) = text := by
  change resolve ((escape quote text ++ [quote]).dropLast) = text
  rw [List.dropLast_concat, resolve_escape kind]

end Quoted

namespace Lexer

variable {text other behind : List Char} {tokens others : List Token}

def Reads (text : List Char) (tokens : List Token) (behind : List Char) : Prop :=
  ∀ offset, ∃ located stop, located.map Located.token = tokens ∧
    scan offset (text ++ behind) = (scan stop behind).map (located ++ ·)

namespace Reads

theorem append (first : Reads text tokens (other ++ behind)) (second : Reads other others behind) :
    Reads (text ++ other) (tokens ++ others) behind := by
  intro offset
  obtain ⟨located, middle, same, scanned⟩ := first offset
  obtain ⟨located', stop, same', scanned'⟩ := second middle
  refine ⟨located ++ located', stop, by rw [List.map_append, same, same'], ?_⟩
  rw [List.append_assoc, scanned, scanned']
  cases scan stop behind <;> simp [Except.map]

theorem lexeme {c : Char} {cs : List Char} {token : Token} (visible : isBlank c = false)
    (found : lexeme? (c :: (cs ++ behind)) = some (token, behind)) :
    Reads (c :: cs) [token] behind :=
  fun offset => ⟨[⟨token, offset, _⟩], _, rfl, scan_lexeme visible found offset⟩

theorem blank (c : Char) (blank : isBlank c = true) (behind : List Char) : Reads [c] [] behind := by
  intro offset
  refine ⟨[], offset + c.utf8Size, rfl, (scan_blank blank offset behind).trans ?_⟩
  cases scan (offset + c.utf8Size) behind <;> rfl

theorem word {letters : List Char} (isWord : IsWord letters) (ends : EndsWord behind) :
    Reads letters [Lexer.word letters] behind := by
  intro offset
  obtain ⟨stop, scanned⟩ := scan_word isWord ends offset
  exact ⟨[_], stop, rfl, scanned⟩

end Reads

def punctuation : List Symbol :=
  [.openParen, .closeParen, .openBracket, .closeBracket, .comma, .dot]

theorem endsWord_symbol (mark : Symbol) (behind : List Char) : EndsWord (mark.spelling ++ behind) := by
  cases mark <;> rfl

theorem Reads.symbol (mark : Symbol) (plain : mark ∈ punctuation) (behind : List Char) :
    Reads mark.spelling [.symbol mark] behind := by
  simp only [punctuation, List.mem_cons, List.not_mem_nil, or_false] at plain
  rcases plain with rfl | rfl | rfl | rfl | rfl | rfl
  all_goals exact .lexeme rfl rfl

theorem Reads.append_symbol {mark : Symbol} {within : List Char}
    (first : ∀ behind, EndsWord behind → Reads text tokens behind)
    (second : Reads (mark.spelling ++ within) others behind) :
    Reads (text ++ (mark.spelling ++ within)) (tokens ++ others) behind := by
  refine (first _ ?_).append second
  rw [List.append_assoc]
  exact endsWord_symbol mark (within ++ behind)

theorem quoted_escape {quote : Char} (kind : quote = '"' ∨ quote = '\'') (text behind : List Char) :
    quoted quote (Quoted.escape quote text ++ quote :: behind) =
      some (Quoted.escape quote text ++ [quote], behind) := by
  have mark : quote ≠ '\\' := by rcases kind with rfl | rfl <;> decide
  induction text with
  | nil => simp [Quoted.escape, quoted, mark]
  | cons c rest ih =>
      rw [Quoted.escape_cons]
      by_cases special : c = quote ∨ c = '\\'
      · -- What stands behind a backslash is no line end, so it does not break the text off.
        have within : c ≠ '\n' := by
          rcases kind with rfl | rfl <;> rcases special with rfl | rfl <;> decide
        rw [if_pos special]
        simp [quoted, ih]
      · obtain ⟨inside, visible⟩ := not_or.mp special
        simp [quoted, inside, visible, ih]

theorem lexeme?_encode {quote : Char} (kind : quote = '"' ∨ quote = '\'') (text behind : List Char) :
    lexeme? (Quoted.encode quote text ++ behind) =
      some (.string (Quoted.encode quote text), behind) := by
  change lexeme? (quote :: (Quoted.escape quote text ++ [quote] ++ behind)) = _
  rw [List.append_assoc, List.singleton_append, lexeme?_quote kind, quoted_escape kind]
  rfl

theorem Reads.quoted {quote : Char} (kind : quote = '"' ∨ quote = '\'') (text behind : List Char) :
    Reads (Quoted.encode quote text) [.string (Quoted.encode quote text)] behind := by
  have visible : isBlank quote = false := by rcases kind with rfl | rfl <;> rfl
  exact .lexeme visible (lexeme?_encode kind text behind)

end Lexer

open Lexer (IsWord EndsWord Reads punctuation)

theorem Derives.of_operand {ts : List Token} {expr : Expr} (inner : Derivation .operand ts expr) :
    Derives ts expr :=
  ⟨.operation (.tighter (.tighter (.tighter (.tighter (.tighter (.tighter (.unprefixed inner)))))))⟩

/-- A text is written for an expression, to stand where no word goes on behind it. -/
def Writes (text : String) (expr : Expr) : Prop :=
  ∃ tokens, Derives tokens expr ∧ ∀ behind, EndsWord behind → Reads text.toList tokens behind

namespace Writes

theorem keyword (word : Keyword) :
    Writes (String.ofList word.spelling) (Parser.keywordExpr word) := by
  refine ⟨[.keyword word], .of_operand (.primary (.keyword word)), fun behind ends => ?_⟩
  have isWord : IsWord word.spelling := by cases word with
    | bool flag => cases flag <;> decide
    | null | undefined => decide
  have same : Lexer.word word.spelling = .keyword word := by cases word with
    | bool flag => cases flag <;> rfl
    | null | undefined => rfl
  rw [String.toList_ofList, ← same]
  exact .word isWord ends

theorem quoted {quote : Char} (kind : quote = '"' ∨ quote = '\'') (text : String) :
    Writes (String.ofList (Quoted.encode quote text.toList)) (.literal (.string text)) := by
  have derivation := Derivation.string (Quoted.encode quote text.toList)
  rw [Quoted.decode_encode kind, String.ofList_toList] at derivation
  refine ⟨_, .of_operand (.primary derivation), fun behind _ => ?_⟩
  rw [String.toList_ofList]
  exact .quoted kind text.toList behind

theorem items (close : Symbol) (plain : close ∈ punctuation) {texts : List String}
    {exprs : List Expr} (written : List.Forall₂ Writes texts exprs) :
    ∃ tokens, Nonempty (Derivation (.items close) tokens exprs) ∧
      ∀ behind, Reads ((String.intercalate ", " texts).toList ++ close.spelling) tokens behind := by
  induction written with
  | nil => exact ⟨[.symbol close], ⟨.none⟩, .symbol close plain⟩
  | @cons text expr texts exprs first rest ih =>
      obtain ⟨tokens, ⟨derivation⟩, reads⟩ := first
      cases rest with
      | nil =>
          refine ⟨tokens ++ [.symbol close], ⟨.last derivation⟩, fun behind => ?_⟩
          rw [String.intercalate_singleton]
          exact (reads _ (Lexer.endsWord_symbol close behind)).append (.symbol close plain behind)
      | @cons next following texts exprs second rest =>
          obtain ⟨others, ⟨behindComma⟩, readOthers⟩ := ih
          refine ⟨tokens ++ .symbol .comma :: others, ⟨.comma derivation behindComma⟩,
            fun behind => ?_⟩
          have comma := (Reads.symbol .comma (by decide) _).append
            (Reads.append (.blank ' ' rfl _) (readOthers behind))
          rw [String.intercalate_cons_cons, String.toList_append, String.toList_append,
            List.append_assoc, List.append_assoc]
          exact Reads.append_symbol reads comma

theorem array {texts : List String} {exprs : List Expr}
    (written : List.Forall₂ Writes texts exprs) :
    Writes ("[" ++ String.intercalate ", " texts ++ "]") (.array exprs) := by
  obtain ⟨tokens, ⟨derivation⟩, reads⟩ := items .closeBracket (by decide) written
  refine ⟨_, .of_operand (.primary (.array derivation)), fun behind _ => ?_⟩
  have whole := (Reads.symbol .openBracket (by decide) _).append (reads behind)
  rw [String.toList_append, String.toList_append, List.append_assoc]
  exact whole

theorem call {name : String} (isWord : IsWord name.toList) {texts : List String}
    {exprs : List Expr} (written : List.Forall₂ Writes texts exprs) :
    Writes ("utilities." ++ name ++ "(" ++ String.intercalate ", " texts ++ ")")
      (.call (.member (.identifier "utilities") name) exprs) := by
  obtain ⟨tokens, ⟨derivation⟩, reads⟩ := items .closeParen (by decide) written
  have named := propertyOf_word name.toList
  rw [String.ofList_toList] at named
  have root : Lexer.word "utilities".toList = .identifier "utilities".toList := by decide
  refine ⟨_, .of_operand (.call (.member (.primary (.identifier "utilities".toList)) named)
    derivation), fun behind _ => ?_⟩
  have arguments := (Reads.symbol .openParen (by decide) _).append (reads behind)
  have property := Reads.append_symbol (fun _ => Reads.word isWord) arguments
  have member := (Reads.symbol .dot (by decide) _).append property
  have isRoot : IsWord "utilities".toList := by decide
  have whole := Reads.append_symbol (fun _ => Reads.word isRoot) member
  rw [root] at whole
  simpa [Symbol.spelling] using whole

theorem parse_eq_ok {source : String} {expr : Expr} (written : Writes source expr)
    (shallow : ¬ Parser.TooDeep (parse source)) : parse source = .ok expr := by
  obtain ⟨tokens, derives, reads⟩ := written
  obtain ⟨located, stop, same, scanned⟩ := reads [] trivial 0
  have tokenized : tokenize source = .ok located := by
    rw [List.append_nil] at scanned
    rw [tokenize, scanned, Lexer.scan]
    simp [Except.map]
  rw [parse, tokenized] at shallow ⊢
  exact Parser.whole_eq_ok_of_derives (same ▸ derives) shallow

end Writes

end MarkupTree
