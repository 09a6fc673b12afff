import MarkupTree.Expr.Parser

/-!
Spelling tokens. Tokens with a blank behind each of them are read back one by one, whatever they are,
because no token but a quoted text goes on over a blank.
-/

namespace MarkupTree

namespace Lexer

theorem scan_blank {c : Char} (blank : isBlank c = true) (offset : Nat) (cs : List Char) :
    scan offset (c :: cs) = scan (offset + c.utf8Size) cs := by
  rw [scan, if_pos blank]

theorem scan_lexeme {c : Char} {cs behind : List Char} {token : Token}
    (visible : isBlank c = false) (found : lexeme? (c :: cs) = some (token, behind)) (offset : Nat) :
    scan offset (c :: cs) =
      (scan (offset + byteSize token.spelling) behind).map
        (⟨token, offset, offset + byteSize token.spelling⟩ :: ·) := by
  rw [scan, if_neg (by rw [visible]; exact Bool.false_ne_true)]
  split
  · rename_i missing
    rw [found] at missing
    cases missing
  · rename_i other rest same
    rw [found] at same
    cases same
    rfl

structure Apart (token : Token) : Prop where
  visible : ∃ c cs, token.spelling = c :: cs ∧ isBlank c = false
  ends : ∀ behind, lexeme? (token.spelling ++ ' ' :: behind) = some (token, ' ' :: behind)

theorem apart_symbol (mark : Symbol) : Apart (.symbol mark) := by
  constructor
  · cases mark <;> exact ⟨_, _, rfl, by decide⟩
  · intro behind
    cases mark <;> rfl

theorem word_eq_identifier {letters : List Char}
    (free : ∀ keyword : Keyword, keyword.spelling ≠ letters) : word letters = .identifier letters := by
  unfold word
  rw [List.find?_eq_none.mpr]
  intro keyword _
  simpa using free keyword

theorem not_isBlank_of_isWordStart {c : Char} (start : isWordStart c = true) :
    isBlank c = false := by
  rw [Bool.eq_false_iff]
  intro blank
  simp only [isBlank, Bool.or_eq_true, decide_eq_true_eq] at blank
  rcases blank with ((rfl | rfl) | rfl) | rfl <;> revert start <;> decide

theorem apart_identifier {c : Char} {cs : List Char} (start : isWordStart c = true)
    (parts : ∀ d ∈ cs, isWordPart d = true)
    (free : ∀ keyword : Keyword, keyword.spelling ≠ c :: cs) : Apart (.identifier (c :: cs)) := by
  constructor
  · exact ⟨c, cs, rfl, not_isBlank_of_isWordStart start⟩
  · intro behind
    have stops : isWordPart ' ' = false := by decide
    simp only [Token.spelling, List.cons_append, lexeme?, start, if_true]
    rw [List.takeWhile_append_of_pos parts, List.dropWhile_append_of_pos parts]
    simp only [List.takeWhile_cons, List.dropWhile_cons, stops, Bool.false_eq_true, if_false,
      List.append_nil, word_eq_identifier free]

theorem lexeme?_quote {quote : Char} (kind : quote = '"' ∨ quote = '\'') (rest : List Char) :
    lexeme? (quote :: rest) =
      (quoted quote rest).map fun (body, behind) => (.string (quote :: body), behind) := by
  rcases kind with rfl | rfl <;> rfl

def spaced : List Token → List Char
  | [] => []
  | token :: rest => token.spelling ++ ' ' :: spaced rest

theorem scan_spaced {tokens : List Token} (apart : ∀ token ∈ tokens, Apart token) (offset : Nat) :
    ∃ located, scan offset (spaced tokens) = .ok located ∧
      located.map Located.token = tokens := by
  induction tokens generalizing offset with
  | nil =>
      refine ⟨[], ?_, rfl⟩
      rw [spaced, scan]
  | cons token rest ih =>
      obtain ⟨c, cs, spelling, visible⟩ := (apart token List.mem_cons_self).visible
      have found := (apart token List.mem_cons_self).ends (spaced rest)
      obtain ⟨located, scanned, tokens⟩ := ih (fun other member =>
        apart other (List.mem_cons_of_mem _ member)) (offset + byteSize token.spelling + 1)
      rw [spelling, List.cons_append] at found
      refine ⟨⟨token, offset, offset + byteSize token.spelling⟩ :: located, ?_, ?_⟩
      · rw [spaced, spelling, List.cons_append, scan_lexeme visible found, scan_blank rfl]
        change (scan (offset + byteSize token.spelling + 1) (spaced rest)).map _ = _
        rw [scanned, spelling]
        rfl
      · rw [List.map_cons, tokens]

end Lexer

theorem exists_tokenize_eq {tokens : List Token} (apart : ∀ token ∈ tokens, Lexer.Apart token) :
    ∃ source located, tokenize source = .ok located ∧ located.map Located.token = tokens := by
  obtain ⟨located, scanned, same⟩ := Lexer.scan_spaced apart 0
  refine ⟨String.ofList (Lexer.spaced tokens), located, ?_, same⟩
  rw [tokenize, String.toList_ofList, scanned]

end MarkupTree
