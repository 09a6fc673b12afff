import MarkupTree.Proofs.Syntax.Acceptance
import MarkupTree.Proofs.Syntax.Spelling

/-!
Dotted paths as expressions: a source that is a path, of at most as many names as levels of nesting,
is read as the properties of an identifier, one under the other.
-/

namespace MarkupTree

namespace Lexer

def IsWord : List Char → Prop
  | [] => False
  | c :: cs => (isWordStart c && cs.all isWordPart) = true

instance : DecidablePred IsWord
  | [] => instDecidableFalse
  | c :: cs => instDecidableEqBool (isWordStart c && cs.all isWordPart) true

def EndsWord : List Char → Prop
  | [] => True
  | c :: _ => isWordPart c = false

theorem scan_word {letters behind : List Char} (isWord : IsWord letters) (ends : EndsWord behind)
    (offset : Nat) : ∃ stop, scan offset (letters ++ behind) =
      (scan stop behind).map (⟨word letters, offset, stop⟩ :: ·) := by
  obtain _ | ⟨c, cs⟩ := letters
  · exact False.elim isWord
  obtain ⟨start, all⟩ := Bool.and_eq_true_iff.mp isWord
  have parts : ∀ d ∈ cs, isWordPart d = true := List.all_eq_true.mp all
  have found : lexeme? (c :: (cs ++ behind)) = some (word (c :: cs), behind) := by
    simp only [lexeme?, start, if_true, List.takeWhile_append_of_pos parts,
      List.dropWhile_append_of_pos parts]
    cases behind with
    | nil => simp
    | cons d rest =>
        have stops : isWordPart d = false := ends
        simp [stops]
  exact ⟨_, scan_lexeme (not_isBlank_of_isWordStart start) found offset⟩

theorem scan_dot (offset : Nat) (behind : List Char) :
    ∃ stop, scan offset ('.' :: behind) =
      (scan stop behind).map (⟨.symbol .dot, offset, stop⟩ :: ·) :=
  ⟨_, scan_lexeme (by decide) rfl offset⟩

def suffixLetters (names : List String) : List Char := names.flatMap fun name => '.' :: name.toList

def suffixTokens (names : List String) : List Token :=
  names.flatMap fun name => [.symbol .dot, word name.toList]

theorem endsWord_suffixLetters (names : List String) : EndsWord (suffixLetters names) := by
  cases names with
  | nil => trivial
  | cons name rest =>
      have dot : isWordPart '.' = false := by decide
      exact dot

theorem scan_suffixLetters {names : List String} (words : ∀ name ∈ names, IsWord name.toList)
    (offset : Nat) : ∃ located, scan offset (suffixLetters names) = .ok located ∧
      located.map Located.token = suffixTokens names := by
  induction names generalizing offset with
  | nil =>
      refine ⟨[], ?_, rfl⟩
      rw [suffixLetters, List.flatMap_nil, scan]
  | cons name rest ih =>
      obtain ⟨own, others⟩ := List.forall_mem_cons.mp words
      obtain ⟨middle, dot⟩ := scan_dot offset (name.toList ++ suffixLetters rest)
      obtain ⟨stop, named⟩ := scan_word own (endsWord_suffixLetters rest) middle
      obtain ⟨located, scanned, tokens⟩ := ih others stop
      refine ⟨⟨.symbol .dot, offset, middle⟩ :: ⟨word name.toList, middle, stop⟩ :: located, ?_, ?_⟩
      · change scan offset ('.' :: (name.toList ++ suffixLetters rest)) = _
        rw [dot, named, scanned]
        rfl
      · rw [List.map_cons, List.map_cons, tokens]
        rfl

end Lexer

open Lexer (IsWord suffixLetters suffixTokens)

structure IsDotted (path : String) (first : String) (others : List String) : Prop where
  spelled : path = String.intercalate "." (first :: others)
  starts : IsWord first.toList
  free : ∀ keyword : Keyword, keyword.spelling ≠ first.toList
  words : ∀ name ∈ others, IsWord name.toList

theorem intercalate_dot_cons (first name : String) (rest : List String) :
    String.intercalate "." (first :: name :: rest) =
      String.intercalate "." ((first ++ "." ++ name) :: rest) := by
  cases rest with
  | nil =>
      rw [String.intercalate_cons_cons, String.intercalate_singleton,
        String.intercalate_singleton]
  | cons next rest => simp only [String.intercalate_cons_cons, String.append_assoc]

theorem toList_intercalate_dot (first : String) (others : List String) :
    (String.intercalate "." (first :: others)).toList = first.toList ++ suffixLetters others := by
  induction others generalizing first with
  | nil => rw [String.intercalate_singleton, suffixLetters, List.flatMap_nil, List.append_nil]
  | cons name rest ih =>
      rw [intercalate_dot_cons, ih]
      simp [suffixLetters, String.toList_append]

namespace IsDotted

variable {path first : String} {others : List String}

theorem tokenize (dotted : IsDotted path first others) :
    ∃ located, MarkupTree.tokenize path = .ok located ∧
      located.map Located.token = .identifier first.toList :: suffixTokens others := by
  obtain ⟨stop, started⟩ := Lexer.scan_word dotted.starts
    (Lexer.endsWord_suffixLetters others) 0
  obtain ⟨located, scanned, tokens⟩ := Lexer.scan_suffixLetters dotted.words stop
  refine ⟨⟨Lexer.word first.toList, 0, stop⟩ :: located, ?_, ?_⟩
  · rw [MarkupTree.tokenize, dotted.spelled, toList_intercalate_dot, started, scanned]
    rfl
  · rw [List.map_cons, tokens, Lexer.word_eq_identifier dotted.free]

end IsDotted

def Expr.members (object : Expr) (names : List String) : Expr := names.foldl .member object

theorem propertyOf_word (letters : List Char) :
    Parser.propertyOf (Lexer.word letters) = some (String.ofList letters) := by
  unfold Lexer.word
  split
  · rename_i keyword found
    have spelled : keyword.spelling = letters := by simpa using List.find?_some found
    rw [Parser.propertyOf, spelled]
  · rfl

theorem Derivation.members {ts : List Token} {object : Expr}
    (derivation : Derivation .operand ts object) (names : List String) :
    ∃ whole : Derivation .operand (ts ++ suffixTokens names) (object.members names),
      whole.nesting ≤ max derivation.nesting (derivation.spine + names.length) := by
  induction names generalizing ts object with
  | nil =>
      have same : ts ++ suffixTokens [] = ts := List.append_nil ts
      rw [same]
      exact ⟨derivation, Nat.le_max_left _ _⟩
  | cons name rest ih =>
      have named := propertyOf_word name.toList
      rw [String.ofList_toList] at named
      obtain ⟨whole, fits⟩ := ih (.member derivation named)
      have same : ts ++ suffixTokens (name :: rest) =
          ts ++ [.symbol .dot, Lexer.word name.toList] ++ suffixTokens rest := by
        rw [List.append_assoc]
        rfl
      rw [same]
      refine ⟨whole, Nat.le_trans fits ?_⟩
      simp only [nesting, spine, List.length_cons]
      omega

theorem IsDotted.parse {path first : String} {others : List String}
    (dotted : IsDotted path first others) (short : others.length < nestingLimit) :
    MarkupTree.parse path = .ok ((Expr.identifier first).members others) := by
  obtain ⟨located, tokenized, tokens⟩ := dotted.tokenize
  obtain ⟨whole, fits⟩ := (Derivation.primary (.identifier first.toList)).members others
  have opened : (Derivation.operation (.tighter (.tighter (.tighter (.tighter (.tighter (.tighter
      (.unprefixed whole)))))))).nesting ≤ nestingLimit := by
    simp only [Derivation.nesting, Derivation.spine] at fits ⊢
    omega
  have read : Parser.whole path.utf8ByteSize located =
      .ok ((Expr.identifier (String.ofList first.toList)).members others) :=
    Parser.whole_eq_ok_iff.mpr (tokens ▸ ⟨_, opened⟩)
  rw [String.ofList_toList] at read
  rw [MarkupTree.parse, tokenized]
  exact read

end MarkupTree
