import MarkupTree.Decimal.Reader
import MarkupTree.Expr.SyntaxError
import MarkupTree.Text.Pieces
/-!
Cutting a source into tokens: at each place the longest token that stands there, keywords before
identifiers, and nothing but blanks between tokens.
-/

namespace MarkupTree

structure Located where
  token : Token
  start : Nat
  stop : Nat
  deriving DecidableEq, Repr

namespace Lexer

def isBlank (c : Char) : Bool := c = ' ' || c = '\t' || c = '\n' || c = '\r'

def isWordStart (c : Char) : Bool := c.isAlpha || c = '_' || c = '$'

def isWordPart (c : Char) : Bool := isWordStart c || Decimal.isDigit c

def word (letters : List Char) : Token :=
  match Keyword.all.find? fun keyword => keyword.spelling = letters with
  | some keyword => .keyword keyword
  | none => .identifier letters

/-- Digits, with a fraction where a digit follows the point. -/
def numeral (cs : List Char) : List Char × List Char :=
  match Decimal.spanDigits cs with
  | (whole, '.' :: digit :: rest) =>
      if Decimal.isDigit digit then
        (whole ++ '.' :: digit :: rest.takeWhile Decimal.isDigit, rest.dropWhile Decimal.isDigit)
      else (whole, '.' :: digit :: rest)
  | (whole, rest) => (whole, rest)

/-- The rest of a quoted text up to its closing quote, and what follows; no escaped line ends. -/
def quoted (quote : Char) : List Char → Option (List Char × List Char)
  | [] => none
  | '\\' :: '\n' :: _ => none
  | '\\' :: mark :: rest =>
      (quoted quote rest).map fun (body, behind) => ('\\' :: mark :: body, behind)
  | c :: rest =>
      if c = quote then some ([c], rest)
      else if c = '\\' then none
      else (quoted quote rest).map fun (body, behind) => (c :: body, behind)

def symbol? (cs : List Char) : Option Symbol :=
  Symbol.longestFirst.find? fun mark => mark.spelling.isPrefixOf cs

/-- The token at the start of a text and what follows it. -/
def lexeme? : List Char → Option (Token × List Char)
  | [] => none
  | c :: rest =>
      if isWordStart c then
        some (word (c :: rest.takeWhile isWordPart), rest.dropWhile isWordPart)
      else if Decimal.isDigit c then
        let (digits, behind) := numeral (c :: rest)
        some (.number digits, behind)
      else if c = '"' ∨ c = '\'' then
        (quoted c rest).map fun (body, behind) => (.string (c :: body), behind)
      else
        (symbol? (c :: rest)).map fun mark =>
          (.symbol mark, (c :: rest).drop mark.spelling.length)

theorem numeral_length {c : Char} (digit : Decimal.isDigit c) (rest : List Char) :
    (numeral (c :: rest)).2.length < (c :: rest).length := by
  have short := Text.length_dropWhile_le Decimal.isDigit rest
  have spanned : Decimal.spanDigits (c :: rest) =
      (c :: rest.takeWhile Decimal.isDigit, rest.dropWhile Decimal.isDigit) := by
    simp [Decimal.spanDigits, digit]
  unfold numeral
  rw [spanned]
  split
  · rename_i whole next tail equal
    have := Text.length_dropWhile_le Decimal.isDigit tail
    simp only [Prod.mk.injEq] at equal
    rw [equal.2] at short
    split <;> simp_all
    all_goals omega
  · rename_i whole tail _ equal
    simp only [Prod.mk.injEq] at equal
    rw [← equal.2]
    simp
    omega

theorem quoted_length {quote : Char} {cs body behind : List Char}
    (found : quoted quote cs = some (body, behind)) : behind.length < cs.length := by
  fun_induction quoted quote cs generalizing body behind with
  | case1 => simp at found
  | case2 => simp at found
  | case3 mark rest _ ih =>
      simp only [Option.map_eq_some_iff] at found
      obtain ⟨⟨body', behind'⟩, inner, equal⟩ := found
      have := ih inner
      simp_all
      omega
  | case4 => simp_all
  | case5 => simp at found
  | case6 c rest _ _ _ _ ih =>
      simp only [Option.map_eq_some_iff] at found
      obtain ⟨⟨body', behind'⟩, inner, equal⟩ := found
      have := ih inner
      simp_all
      omega

theorem spelling_length_pos (mark : Symbol) : 0 < mark.spelling.length := by
  cases mark <;> simp [Symbol.spelling]

theorem lexeme?_length {cs behind : List Char} {token : Token}
    (found : lexeme? cs = some (token, behind)) : behind.length < cs.length := by
  cases cs with
  | nil => simp [lexeme?] at found
  | cons c rest =>
      by_cases start : isWordStart c
      · have := Text.length_dropWhile_le isWordPart rest
        simp only [lexeme?, start, if_true, Option.some.injEq, Prod.mk.injEq] at found
        rw [← found.2, List.length_cons]
        omega
      · by_cases digit : Decimal.isDigit c
        · have := numeral_length digit rest
          simp only [lexeme?, start, digit, if_true, if_false, Option.some.injEq, Prod.mk.injEq,
            Bool.false_eq_true] at found
          rw [← found.2]
          exact this
        · by_cases mark : c = '"' ∨ c = '\''
          · simp only [lexeme?, start, digit, mark, if_true, if_false, Bool.false_eq_true,
              Option.map_eq_some_iff, Prod.mk.injEq] at found
            obtain ⟨⟨body, behind'⟩, inner, _, equal⟩ := found
            have := quoted_length inner
            simp only at equal
            rw [← equal, List.length_cons]
            omega
          · simp only [lexeme?, start, digit, mark, if_false, Bool.false_eq_true,
              Option.map_eq_some_iff, Prod.mk.injEq] at found
            obtain ⟨symbol, _, _, equal⟩ := found
            have := spelling_length_pos symbol
            rw [← equal, List.length_drop, List.length_cons]
            omega

def byteSize : List Char → Nat
  | [] => 0
  | c :: rest => c.utf8Size + byteSize rest

def scan (offset : Nat) (cs : List Char) : Except SyntaxError (List Located) :=
  match cs with
  | [] => .ok []
  | c :: rest =>
      if isBlank c then scan (offset + c.utf8Size) rest
      else
        match _found : lexeme? (c :: rest) with
        | none => .error (.unreadable offset)
        | some (token, behind) =>
            let stop := offset + byteSize token.spelling
            (scan stop behind).map (⟨token, offset, stop⟩ :: ·)
termination_by cs.length
decreasing_by
  all_goals simp_wf
  have := lexeme?_length (by assumption)
  simpa [Nat.lt_succ_iff] using this

end Lexer

def tokenize (source : String) : Except SyntaxError (List Located) := Lexer.scan 0 source.toList

end MarkupTree
