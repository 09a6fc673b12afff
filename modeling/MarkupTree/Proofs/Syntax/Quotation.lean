import Mathlib
import MarkupTree.Expr.Eval
import MarkupTree.Proofs.Syntax.Tiling
import MarkupTree.Proofs.Syntax.Writing

/-!
Texts in quotes. With a backslash before each quote and each backslash, every text is one token, which
is read as the literal of that text and so means it in every scope.
-/

namespace MarkupTree

namespace Quoted

variable {quote : Char}

theorem tokenize_encode (kind : quote = '"' ∨ quote = '\'') (text : List Char) :
    tokenize (String.ofList (encode quote text)) =
      .ok [⟨.string (encode quote text), 0, (String.ofList (encode quote text)).utf8ByteSize⟩] := by
  have visible : Lexer.isBlank quote = false := by rcases kind with rfl | rfl <;> rfl
  have found := Lexer.lexeme?_encode kind text []
  rw [List.append_nil] at found
  rw [tokenize, String.toList_ofList, String.utf8ByteSize_ofList, ← Lexer.byteSize_eq]
  rw [encode, Lexer.scan_lexeme visible found, Lexer.scan, Nat.zero_add]
  rfl

theorem parse_encode (kind : quote = '"' ∨ quote = '\'') (text : String) :
    parse (String.ofList (encode quote text.toList)) = .ok (.literal (.string text)) := by
  let raw := encode quote text.toList
  let operand := (Derivation.string raw).primary.unprefixed
  have opened : operand.tighter.tighter.tighter.tighter.tighter.tighter.operation.nesting ≤
      nestingLimit := by
    simp [operand, Derivation.nesting, nestingLimit]
  have read : Parser.whole (String.ofList raw).utf8ByteSize
      [⟨.string raw, 0, (String.ofList raw).utf8ByteSize⟩] =
        .ok (.literal (.string (String.ofList (decode raw)))) := Parser.whole_eq_ok_iff.mpr ⟨_, opened⟩
  rw [decode_encode kind, String.ofList_toList] at read
  rw [parse, tokenize_encode kind]
  exact read

/-- Quoted as the source of an expression, any text means itself. -/
theorem encode_means_text (kind : quote = '"' ∨ quote = '\'') (text : String) :
    let source := String.ofList (encode quote text.toList)
    tokenize source = .ok [⟨.string source.toList, 0, source.utf8ByteSize⟩] ∧
      parse source = .ok (.literal (.string text)) ∧
      ∀ scope : Scope, scope.evaluate source = .ok (some (.string text)) := by
  intro source
  have parsed := parse_encode kind text
  refine ⟨?_, parsed, fun scope => ?_⟩
  · rw [String.toList_ofList]
    exact tokenize_encode kind text.toList
  · rw [Scope.evaluate, parsed]
    rfl

theorem crowdedText_means_itself : ('\'' = '"' ∨ '\'' = '\'') ∧
    let source := "'\\\\n\\'\"\n\\\\é\\\\\\\\😀'"
    tokenize source = .ok [⟨.string source.toList, 0, source.utf8ByteSize⟩] ∧
      parse source = .ok (.literal (.string "\\n'\"\n\\é\\\\😀")) ∧
      ∀ scope : Scope, scope.evaluate source = .ok (some (.string "\\n'\"\n\\é\\\\😀")) := by
  have kind : '\'' = '"' ∨ '\'' = '\'' := .inr rfl
  exact ⟨kind, encode_means_text kind "\\n'\"\n\\é\\\\😀"⟩

end Quoted

end MarkupTree
