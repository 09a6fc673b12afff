import Mathlib
import MarkupTree.Proofs.Syntax.Rules

/-!
How tokens tile their source: what is between them is blank, and each is the longest match of any rule
where it starts. A source is refused where no rule and no blank goes on, and tokens with blanks between
them are cut as they were written.
-/

namespace MarkupTree

namespace Lexer

def blanks : List Char := [' ', '\t', '\n', '\r']

/-- A text stands in a source from this byte on. -/
def StandsAt (source : String) (position : Nat) (text : List Char) : Prop :=
  ∃ before behind, source.toList = before ++ text ++ behind ∧ byteSize before = position

structure LongestAt (source : String) (position : Nat) (token : Token) : Prop where
  stands : StandsAt source position token.spelling
  wellSpelled : WellSpelled token
  longest : ∀ (rule : Rule) (text : List Char), text ∈ rule.texts → StandsAt source position text →
    text.length ≤ token.spelling.length

/-- Tokens in the order of the source, each with the bytes of its spelling, and blanks elsewhere. -/
structure Tiling (source : String) (located : List Located) : Prop where
  given : ∀ part ∈ located, part.start < part.stop
  inside : ∀ part ∈ located, part.stop ≤ source.utf8ByteSize
  apart : located.Pairwise fun part next => part.stop ≤ next.start
  spelled : ∀ part ∈ located,
    String.Pos.Raw.extract source ⟨part.start⟩ ⟨part.stop⟩ = String.ofList part.token.spelling
  longest : ∀ part ∈ located, LongestAt source part.start part.token
  blank : ∀ (position : Nat) (inside : position < source.utf8ByteSize),
    (∀ part ∈ located, position < part.start ∨ part.stop ≤ position) →
      source.getUTF8Byte ⟨position⟩ inside ∈ ([0x20, 0x09, 0x0A, 0x0D] : List UInt8)

/-- Nothing goes on at a place inside a source, though all before it can be read. -/
structure RefusedAt (source : String) (position : Nat) : Prop where
  inside : position < source.utf8ByteSize
  stands : ∃ c, StandsAt source position [c]
  visible : ∀ c ∈ blanks, ¬ StandsAt source position [c]
  ruleless : ∀ (rule : Rule) (text : List Char), text ∈ rule.texts → ¬ StandsAt source position text
  readable : ∃ located, tokenize (String.Pos.Raw.extract source 0 ⟨position⟩) = .ok located

def written (parts : List (List Char × Token)) : List Char :=
  parts.flatMap fun part => part.1 ++ part.2.spelling

section Bytes

variable {before before' behind behind' text : List Char} {c : Char}

theorem byteSize_eq (text : List Char) : byteSize text = String.utf8Len text := by
  induction text with
  | nil => rfl
  | cons c rest ih => rw [byteSize, String.utf8Len_cons, ih, Nat.add_comm]

theorem byteSize_append (text other : List Char) :
    byteSize (text ++ other) = byteSize text + byteSize other := by
  simp only [byteSize_eq, String.utf8Len_append]

theorem byteSize_toList (source : String) : byteSize source.toList = source.utf8ByteSize := by
  rw [byteSize_eq, String.utf8Len_toList]

theorem append_inj_of_byteSize (same : before ++ behind = before' ++ behind')
    (size : byteSize before = byteSize before') : before = before' ∧ behind = behind' := by
  induction before generalizing before' with
  | nil =>
      cases before' with
      | nil => exact ⟨rfl, same⟩
      | cons d rest =>
          have := d.utf8Size_pos
          simp only [byteSize] at size
          omega
  | cons c rest ih =>
      cases before' with
      | nil =>
          have := c.utf8Size_pos
          simp only [byteSize] at size
          omega
      | cons d rest' =>
          obtain ⟨rfl, more⟩ := List.cons.inj same
          obtain ⟨rfl, equal⟩ := ih more (Nat.add_left_cancel size)
          exact ⟨rfl, equal⟩

theorem exists_letter_around {position : Nat} (inside : position < byteSize text) :
    ∃ before c behind, text = before ++ c :: behind ∧ byteSize before ≤ position ∧
      position < byteSize before + c.utf8Size := by
  induction text generalizing position with
  | nil => exact absurd inside (Nat.not_lt_zero position)
  | cons c rest ih =>
      by_cases first : position < c.utf8Size
      · exact ⟨[], c, rest, rfl, Nat.zero_le _, by simpa [byteSize] using first⟩
      · have later : position - c.utf8Size < byteSize rest := by
          rw [byteSize] at inside
          omega
        obtain ⟨before, d, behind, rfl, low, high⟩ := ih later
        refine ⟨c :: before, d, behind, rfl, ?_, ?_⟩
        all_goals
          rw [byteSize]
          omega

theorem isBlank_iff : isBlank c = true ↔ c ∈ blanks := by
  simp [isBlank, blanks, or_assoc]

theorem isBlank_cases (blank : isBlank c = true) : c = ' ' ∨ c = '\t' ∨ c = '\n' ∨ c = '\r' := by
  simpa [blanks] using isBlank_iff.mp blank

theorem utf8Size_of_isBlank (blank : isBlank c = true) : c.utf8Size = 1 := by
  obtain rfl | rfl | rfl | rfl := isBlank_cases blank <;> decide

theorem getUTF8Byte_of_isBlank (blank : isBlank c = true) (before behind : List Char)
    (inside : (⟨byteSize before⟩ : String.Pos.Raw) <
      (String.ofList (before ++ c :: behind)).rawEndPos) :
    (String.ofList (before ++ c :: behind)).getUTF8Byte ⟨byteSize before⟩ inside ∈
      ([0x20, 0x09, 0x0A, 0x0D] : List UInt8) := by
  have size : before.utf8Encode.size = byteSize before := by
    rw [← String.toByteArray_ofList, String.size_toByteArray, String.utf8ByteSize_ofList,
      byteSize_eq]
  have bytes : (String.ofList (before ++ c :: behind)).toByteArray =
      before.utf8Encode ++ ([c].utf8Encode ++ behind.utf8Encode) := by
    rw [String.toByteArray_ofList, List.utf8Encode_append, List.utf8Encode_cons]
  -- a blank is one byte
  have byte : ∃ given : 0 < [c].utf8Encode.size,
      [c].utf8Encode[0] ∈ ([0x20, 0x09, 0x0A, 0x0D] : List UInt8) := by
    obtain rfl | rfl | rfl | rfl := isBlank_cases blank <;> decide
  obtain ⟨given, among⟩ := byte
  unfold String.getUTF8Byte
  simp only [bytes]
  rw [ByteArray.getElem_append_right (by simp [size])]
  simp only [size, Nat.sub_self]
  rwa [ByteArray.getElem_append_left given]

end Bytes

theorem IsWord.isWordPart {text : List Char} (isWord : IsWord text) {c : Char} (within : c ∈ text) :
    isWordPart c = true := by
  obtain _ | ⟨d, rest⟩ := text
  · cases within
  · obtain ⟨start, all⟩ := Bool.and_eq_true_iff.mp isWord
    obtain rfl | later := List.mem_cons.mp within
    · rw [Lexer.isWordPart, start, Bool.true_or]
    · exact List.all_eq_true.mp all c later

namespace StandsAt

variable {source : String} {position : Nat} {before behind text : List Char}

theorem of_eq (letters : source.toList = before ++ (text ++ behind)) :
    StandsAt source (byteSize before) text :=
  ⟨before, behind, by rw [letters, List.append_assoc], rfl⟩

theorem isPrefix (letters : source.toList = before ++ behind)
    (stands : StandsAt source (byteSize before) text) : text <+: behind := by
  obtain ⟨before', behind', same, size⟩ := stands
  rw [letters, List.append_assoc] at same
  obtain ⟨-, rfl⟩ := append_inj_of_byteSize same size.symm
  exact List.prefix_append text behind'

end StandsAt

theorem lexeme?_of_isBlank {c : Char} (blank : isBlank c = true) (rest : List Char) :
    lexeme? (c :: rest) = none := by
  obtain rfl | rfl | rfl | rfl := isBlank_cases blank <;> rfl

section Leading

variable {token : Token} {behind : List Char}

theorem WellSpelled.exists_cons (wellSpelled : WellSpelled token) :
    ∃ c cs, token.spelling = c :: cs ∧ isBlank c = false := by
  obtain ⟨rule, member, _⟩ := wellSpelled.ruled
  obtain ⟨other, rest, found, _⟩ := exists_lexeme_of_mem_texts member []
  rw [List.append_nil] at found
  cases spelling : token.spelling with
  | nil =>
      rw [spelling] at found
      cases found
  | cons c cs =>
      refine ⟨c, cs, rfl, ?_⟩
      rw [← Bool.not_eq_true]
      intro blank
      rw [spelling, lexeme?_of_isBlank blank] at found
      cases found

theorem WellSpelled.byteSize_pos (wellSpelled : WellSpelled token) : 0 < byteSize token.spelling := by
  obtain ⟨c, cs, spelling, _⟩ := wellSpelled.exists_cons
  rw [spelling, byteSize]
  exact Nat.add_pos_left c.utf8Size_pos _

theorem Leads.cut {before : List Char} (leads : Leads token (token.spelling ++ (before ++ behind))) :
    Leads token (token.spelling ++ before) where
  wellSpelled := leads.wellSpelled
  starts := List.prefix_append _ _
  longest rule other member stands := by
    refine leads.longest rule other member (stands.trans ?_)
    rw [← List.append_assoc]
    exact List.prefix_append _ _

theorem mem_quotations_of_head {quote : Char} {rest : List Char} {rule : Rule}
    (kind : quote = '"' ∨ quote = '\'') (member : quote :: rest ∈ rule.texts) :
    quote :: rest ∈ quotations quote := by
  obtain ⟨token, behind, found, starts, _⟩ := exists_lexeme_of_mem_texts member []
  rw [List.append_nil, lexeme?_quote kind] at found
  obtain ⟨⟨body, after⟩, ends, same⟩ := Option.map_eq_some_iff.mp found
  cases same
  obtain ⟨rfl, isClosed⟩ := quoted_parts ends
  have shorter : body ++ behind <+: body := (List.prefix_cons_inj quote).mp starts
  have none : behind = [] := List.append_right_eq_self.mp
    (shorter.eq_of_length_le (by simp))
  rw [none, List.append_nil]
  exact cons_mem_letter_mul.mpr ⟨rfl, isClosed⟩

theorem notMem_of_isBlank {rule : Rule} {text : List Char} {c : Char} (member : text ∈ rule.texts)
    (double : rule ≠ .doubleQuoted) (single : rule ≠ .singleQuoted) (blank : isBlank c = true) :
    c ∉ text := by
  have kinds := isBlank_cases blank
  have part : isWordPart c = false := by obtain rfl | rfl | rfl | rfl := kinds <;> decide
  have digit : Decimal.isDigit c = false := by obtain rfl | rfl | rfl | rfl := kinds <;> decide
  have apart {text : List Char} (isWord : IsWord text) : c ∉ text := by
    intro within
    rw [isWord.isWordPart within] at part
    cases part
  cases rule with
  | keyword word =>
      obtain rfl : text = word.spelling := member
      exact apart (isWord_spelling word)
  | identifier => exact apart (mem_words.mp member)
  | doubleQuoted => exact absurd rfl double
  | singleQuoted => exact absurd rfl single
  | number =>
      have whole {text : List Char} (isWhole : text ∈ digits) : c ∉ text := by
        intro within
        rw [(mem_digits.mp isWhole).2 c within] at digit
        cases digit
      obtain ⟨before, isWhole, rfl | ⟨decimals, isDecimal, rfl⟩⟩ := mem_numbers.mp member
      · exact whole isWhole
      · have point : c ≠ '.' := by obtain rfl | rfl | rfl | rfl := kinds <;> decide
        simp [whole isWhole, whole isDecimal, point]
  | symbol mark =>
      obtain rfl : text = mark.spelling := member
      obtain rfl | rfl | rfl | rfl := kinds <;> cases mark <;> decide

theorem notMem_texts_of_isBlank {rule : Rule} {c : Char} (wellSpelled : WellSpelled token)
    (blank : isBlank c = true) (more : List Char) :
    token.spelling ++ c :: more ∉ rule.texts := by
  intro member
  have within : c ∈ token.spelling ++ c :: more := by simp
  obtain ⟨own, spelled, _⟩ := wellSpelled.ruled
  obtain ⟨d, cs, spelling, _⟩ := wellSpelled.exists_cons
  -- a quoted text ends at the first quote that can end it, so none goes on behind another
  have ended {quote : Char} (kind : quote = '"' ∨ quote = '\'') :
      token.spelling ++ c :: more ∉ quotations quote := by
    rw [spelling] at spelled ⊢
    rw [List.cons_append]
    intro quotation
    obtain ⟨rfl, longer⟩ := cons_mem_letter_mul.mp quotation
    have shorter := (cons_mem_letter_mul.mp (mem_quotations_of_head kind spelled)).2
    have visible : d ≠ '\\' := by rcases kind with rfl | rfl <;> decide
    have read := quoted_append visible shorter (c :: more)
    have read' := quoted_append visible longer []
    rw [List.append_nil, read] at read'
    cases congrArg Prod.snd (Option.some.inj read')
  by_cases double : rule = .doubleQuoted
  · subst double
    exact ended (.inl rfl) member
  by_cases single : rule = .singleQuoted
  · subst single
    exact ended (.inr rfl) member
  exact notMem_of_isBlank member double single blank within

theorem WellSpelled.leads (wellSpelled : WellSpelled token)
    (ends : ∀ c ∈ behind.head?, isBlank c = true) : Leads token (token.spelling ++ behind) where
  wellSpelled := wellSpelled
  starts := List.prefix_append _ _
  longest rule other member stands := by
    by_contra longer
    rw [Nat.not_le] at longer
    obtain ⟨tail, rfl⟩ := List.prefix_of_prefix_length_le (List.prefix_append _ _) stands longer.le
    rw [List.prefix_append_right_inj] at stands
    obtain _ | ⟨c, more⟩ := tail
    · simp at longer
    · obtain ⟨after, rfl⟩ := stands
      exact notMem_texts_of_isBlank wellSpelled (ends c rfl) more member

theorem wellSpelled_iff : WellSpelled token ↔ lexeme? token.spelling = some (token, []) := by
  refine ⟨fun wellSpelled => ?_, fun found => (lexeme?_parts found).2⟩
  have leads := @WellSpelled.leads token [] wellSpelled (by simp)
  rw [List.append_nil] at leads
  exact lexeme?_eq_some_iff.mpr ⟨List.append_nil _, leads⟩

instance : DecidablePred WellSpelled := fun _ => decidable_of_iff _ wellSpelled_iff.symm

example : ¬ WellSpelled (.identifier ['n', 'u', 'l', 'l']) ∧
    WellSpelled (.identifier ['n', 'u', 'l', 'l', 's']) := by decide

end Leading

/-- How a text that starts at some byte of its source is cut. -/
inductive Cuts : Nat → List Char → List Located → Prop
  | done (offset : Nat) : Cuts offset [] []
  | blank {offset : Nat} {c : Char} {rest : List Char} {located : List Located}
      (blank : isBlank c = true) (more : Cuts (offset + c.utf8Size) rest located) :
      Cuts offset (c :: rest) located
  | token {offset : Nat} {token : Token} {behind : List Char} {located : List Located}
      (leads : Leads token (token.spelling ++ behind))
      (more : Cuts (offset + byteSize token.spelling) behind located) :
      Cuts offset (token.spelling ++ behind)
        (⟨token, offset, offset + byteSize token.spelling⟩ :: located)

section Cutting

variable {offset : Nat} {text : List Char} {located : List Located}

theorem cuts_of_scan (scanned : scan offset text = .ok located) : Cuts offset text located := by
  fun_induction scan offset text generalizing located with
  | case1 =>
      cases scanned
      exact .done _
  | case2 offset c rest blank ih => exact .blank blank (ih scanned)
  | case3 => cases scanned
  | case4 offset c rest visible token behind found stop =>
      rename_i ih
      obtain ⟨parted, leads⟩ := lexeme?_eq_some_iff.mp found
      cases inner : scan stop behind with
      | error cause => simp [inner, Except.map] at scanned
      | ok others =>
          simp only [inner, Except.map, Except.ok.injEq] at scanned
          subst scanned
          rw [← parted] at leads ⊢
          exact .token leads (ih inner)

theorem Cuts.scan (cuts : Cuts offset text located) : Lexer.scan offset text = .ok located := by
  induction cuts with
  | done => rw [Lexer.scan]
  | blank blank _ ih => rw [scan_blank blank, ih]
  | @token offset token behind located leads _ ih =>
      obtain ⟨c, cs, spelling, visible⟩ := leads.wellSpelled.exists_cons
      have found := lexeme?_eq_some_iff.mpr ⟨rfl, leads⟩
      have letters : token.spelling ++ behind = c :: (cs ++ behind) := by
        rw [spelling, List.cons_append]
      rw [letters] at found ⊢
      rw [scan_lexeme visible found, ih]
      rfl

theorem scan_eq_error {cause : SyntaxError} (failed : scan offset text = .error cause) :
    ∃ before c rest, text = before ++ c :: rest ∧ cause = .unreadable (offset + byteSize before) ∧
      isBlank c = false ∧ lexeme? (c :: rest) = none ∧ ∃ located, Cuts offset before located := by
  fun_induction scan offset text generalizing cause with
  | case1 => cases failed
  | case2 offset c rest blank ih =>
      obtain ⟨before, d, behind, rfl, rfl, visible, missing, located, cuts⟩ := ih failed
      exact ⟨c :: before, d, behind, rfl, by rw [byteSize, Nat.add_assoc], visible, missing, located,
        .blank blank cuts⟩
  | case3 offset c rest visible missing =>
      cases failed
      exact ⟨[], c, rest, rfl, rfl, by simpa using visible, missing, [], .done offset⟩
  | case4 offset c rest visible token behind found stop =>
      rename_i ih
      obtain ⟨parted, leads⟩ := lexeme?_eq_some_iff.mp found
      cases inner : scan stop behind with
      | ok others => simp [inner, Except.map] at failed
      | error other =>
          simp only [inner, Except.map, Except.error.injEq] at failed
          subst failed
          obtain ⟨before, d, behind', rfl, rfl, unseen, missing, located, cuts⟩ := ih inner
          rw [← parted] at leads
          refine ⟨token.spelling ++ before, d, behind', ?_, ?_, unseen, missing, _,
            .token leads.cut cuts⟩
          · rw [← parted, List.append_assoc]
          · rw [byteSize_append, ← Nat.add_assoc]

namespace Cuts

theorem places (cuts : Cuts offset text located) : ∀ part ∈ located, ∃ before behind,
    text = before ++ (part.token.spelling ++ behind) ∧ part.start = offset + byteSize before ∧
      part.stop = part.start + byteSize part.token.spelling ∧
      Leads part.token (part.token.spelling ++ behind) := by
  induction cuts with
  | done => simp
  | @blank offset c rest located blank _ ih =>
      intro part member
      obtain ⟨before, behind, rfl, start, stop, leads⟩ := ih part member
      exact ⟨c :: before, behind, rfl, by rw [start, byteSize, Nat.add_assoc], stop, leads⟩
  | @token offset token behind located leads _ ih =>
      rw [List.forall_mem_cons]
      refine ⟨⟨[], behind, rfl, rfl, rfl, leads⟩, fun part member => ?_⟩
      obtain ⟨before, after, rfl, start, stop, leads'⟩ := ih part member
      refine ⟨token.spelling ++ before, after, by rw [List.append_assoc], ?_, stop, leads'⟩
      rw [start, byteSize_append, Nat.add_assoc]

theorem apart (cuts : Cuts offset text located) :
    located.Pairwise fun part next => part.stop ≤ next.start := by
  induction cuts with
  | done => exact .nil
  | blank _ _ ih => exact ih
  | token _ more ih =>
      refine .cons (fun part member => ?_) ih
      obtain ⟨before, _, _, start, _⟩ := more.places part member
      exact start ▸ Nat.le_add_right _ _

theorem covers (cuts : Cuts offset text located) {before behind : List Char} {c : Char}
    (letters : text = before ++ c :: behind) : isBlank c = true ∨ ∃ part ∈ located,
      part.start ≤ offset + byteSize before ∧
        offset + byteSize before + c.utf8Size ≤ part.stop := by
  induction cuts generalizing before with
  | done => simp at letters
  | @blank offset d rest located blank _ ih =>
      obtain _ | ⟨e, before⟩ := before
      · obtain ⟨rfl, rfl⟩ := List.cons.inj letters
        exact .inl blank
      · obtain ⟨rfl, rfl⟩ := List.cons.inj letters
        have inner := ih rfl
        rwa [Nat.add_assoc] at inner
  | @token offset token rest located leads _ ih =>
      obtain ⟨within, rfl, same⟩ | ⟨_ | ⟨d, within⟩, spelling, same⟩ :=
        List.append_eq_append_iff.mp letters
      · rw [byteSize_append, ← Nat.add_assoc]
        exact (ih same).imp_right fun ⟨part, member, bounds⟩ =>
          ⟨part, List.mem_cons_of_mem _ member, bounds⟩
      · rw [List.append_nil] at spelling
        rw [← spelling]
        exact (@ih [] same.symm).imp_right fun ⟨part, member, bounds⟩ =>
          ⟨part, List.mem_cons_of_mem _ member, bounds⟩
      · obtain ⟨rfl, -⟩ := List.cons.inj same
        refine .inr ⟨_, List.mem_cons_self, Nat.le_add_right _ _, ?_⟩
        dsimp only
        rw [spelling, byteSize_append, byteSize]
        omega

theorem blanks {gap : List Char} (blank : ∀ c ∈ gap, isBlank c = true)
    (cuts : Cuts (offset + byteSize gap) text located) : Cuts offset (gap ++ text) located := by
  induction gap generalizing offset with
  | nil => exact cuts
  | cons c rest ih =>
      obtain ⟨own, others⟩ := List.forall_mem_cons.mp blank
      rw [byteSize, ← Nat.add_assoc] at cuts
      exact .blank own (ih others cuts)

end Cuts

theorem exists_cuts_written {parts : List (List Char × Token)} {last : List Char}
    (each : ∀ part ∈ parts, (∀ c ∈ part.1, isBlank c = true) ∧ WellSpelled part.2)
    (between : ∀ part ∈ parts.tail, part.1 ≠ []) (blank : ∀ c ∈ last, isBlank c = true)
    (offset : Nat) : ∃ located, Cuts offset (written parts ++ last) located ∧
      located.map Located.token = parts.map Prod.snd := by
  induction parts generalizing offset with
  | nil =>
      refine ⟨[], ?_, rfl⟩
      have ended := Cuts.blanks blank (.done (offset + byteSize last))
      rwa [List.append_nil] at ended
  | cons part rest ih =>
      obtain ⟨gap, token⟩ := part
      obtain ⟨⟨gapBlank, wellSpelled⟩, others⟩ := List.forall_mem_cons.mp each
      obtain ⟨located, cuts, tokens⟩ := ih others
        (fun part member => between part (List.mem_of_mem_tail member))
        (offset + byteSize gap + byteSize token.spelling)
      -- what follows the token is the blank before the next one, or the end
      have ends : ∀ c ∈ (written rest ++ last).head?, isBlank c = true := by
        obtain _ | ⟨⟨_ | ⟨c, cs⟩, next⟩, more⟩ := rest
        · exact fun c first => blank c (List.mem_of_mem_head? first)
        · exact absurd rfl (between _ List.mem_cons_self)
        · rintro _ ⟨⟩
          exact (others _ List.mem_cons_self).1 c List.mem_cons_self
      have letters : written ((gap, token) :: rest) ++ last =
          gap ++ (token.spelling ++ (written rest ++ last)) := by simp [written]
      rw [letters]
      refine ⟨_, .blanks gapBlank (.token (wellSpelled.leads ends) cuts), ?_⟩
      rw [List.map_cons, List.map_cons, tokens]

end Cutting

section Sources

variable {source : String} {located : List Located}

theorem StandsAt.position_lt {position : Nat} {c : Char} (stands : StandsAt source position [c]) :
    position < source.utf8ByteSize := by
  obtain ⟨before, behind, letters, rfl⟩ := stands
  have := c.utf8Size_pos
  rw [← byteSize_toList, letters, byteSize_append, byteSize_append, byteSize]
  omega

theorem extract_eq {before text behind : List Char}
    (letters : source.toList = before ++ (text ++ behind)) :
    String.Pos.Raw.extract source ⟨byteSize before⟩ ⟨byteSize before + byteSize text⟩ =
      String.ofList text := by
  rw [← String.ofList_toList (s := source), letters, ← List.append_assoc]
  simp only [byteSize_eq]
  exact String.extract_of_valid before text behind

theorem Cuts.tiling (cuts : Cuts 0 source.toList located) : Tiling source located := by
  constructor
  · intro part member
    obtain ⟨_, _, _, _, stop, leads⟩ := cuts.places part member
    have := leads.wellSpelled.byteSize_pos
    omega
  · intro part member
    obtain ⟨before, behind, letters, start, stop, _⟩ := cuts.places part member
    rw [stop, start, ← byteSize_toList, letters, byteSize_append, byteSize_append]
    omega
  · exact cuts.apart
  · intro part member
    obtain ⟨before, behind, letters, start, stop, _⟩ := cuts.places part member
    rw [stop, start, Nat.zero_add]
    exact extract_eq letters
  · intro part member
    obtain ⟨before, behind, letters, start, _, leads⟩ := cuts.places part member
    rw [start, Nat.zero_add]
    exact ⟨.of_eq letters, leads.wellSpelled, fun rule text own stands =>
      leads.longest rule text own (stands.isPrefix letters)⟩
  · intro position inside outside
    rw [← byteSize_toList] at inside
    obtain ⟨before, c, behind, letters, low, high⟩ := exists_letter_around inside
    obtain blank | ⟨part, member, start, stop⟩ := cuts.covers letters
    · have single := utf8Size_of_isBlank blank
      obtain rfl : position = byteSize before := by omega
      obtain rfl : source = String.ofList (before ++ c :: behind) := by
        rw [← letters, String.ofList_toList]
      exact getUTF8Byte_of_isBlank blank before behind _
    · have := outside part member
      omega

theorem refusedAt_of_scan_eq_error {cause : SyntaxError} (failed : scan 0 source.toList = .error cause) :
    ∃ position, cause = .unreadable position ∧ RefusedAt source position := by
  obtain ⟨before, c, rest, letters, rfl, visible, missing, located, cuts⟩ := scan_eq_error failed
  rw [Nat.zero_add]
  have stands : StandsAt source (byteSize before) [c] := .of_eq letters
  refine ⟨_, rfl, stands.position_lt, ⟨c, stands⟩, ?_, ?_, located, ?_⟩
  · intro d blank elsewhere
    obtain ⟨rfl, -⟩ := List.cons_prefix_cons.mp (elsewhere.isPrefix letters)
    rw [isBlank_iff.mpr blank] at visible
    cases visible
  · intro rule text member elsewhere
    exact lexeme?_eq_none_iff.mp missing rule text member (elsewhere.isPrefix letters)
  · have start : source.toList = [] ++ (before ++ c :: rest) := letters
    have kept := extract_eq start
    rw [byteSize, Nat.zero_add] at kept
    change tokenize (String.Pos.Raw.extract source ⟨0⟩ ⟨byteSize before⟩) = _
    rw [kept, tokenize, String.toList_ofList]
    exact cuts.scan

end Sources

end Lexer

open Lexer

/--
The tokens of a source tile it, a source without tokens is refused at the first place where nothing
goes on, and tokens with blanks between them are those of the text that spells them.
-/
theorem tokenize_tiles :
    (∀ (source : String) (located : List Located), tokenize source = .ok located →
      Tiling source located) ∧
    (∀ (source : String) (cause : SyntaxError), tokenize source = .error cause →
      ∃ position, cause = .unreadable position ∧ RefusedAt source position) ∧
    ∀ (parts : List (List Char × Token)) (last : List Char),
      (∀ part ∈ parts, (∀ c ∈ part.1, c ∈ blanks) ∧ WellSpelled part.2) →
      (∀ part ∈ parts.tail, part.1 ≠ []) → (∀ c ∈ last, c ∈ blanks) →
      ∃ located, tokenize (String.ofList (written parts ++ last)) = .ok located ∧
        located.map Located.token = parts.map Prod.snd := by
  refine ⟨fun source located scanned => (cuts_of_scan scanned).tiling,
    fun source cause failed => refusedAt_of_scan_eq_error failed, ?_⟩
  intro parts last each between blank
  simp only [← isBlank_iff] at each blank
  obtain ⟨located, cuts, tokens⟩ := exists_cuts_written each between blank 0
  refine ⟨located, ?_, tokens⟩
  rw [tokenize, String.toList_ofList, cuts.scan]

theorem mixedSource_tiled :
    (∃ located, tokenize "a===\t'é\\''\n1.5." = .ok located ∧ located.length = 5 ∧
      Tiling "a===\t'é\\''\n1.5." located) ∧
    (tokenize "nullx # b" = .error (.unreadable 6) ∧ RefusedAt "nullx # b" 6) ∧
    ∃ located, tokenize (String.ofList (written [([], .keyword .null),
        (['\t', '\n'], .identifier ['n', 'u', 'l', 'l', 'x']), ([' '], .string ['\'', '\n', '\'']),
        ([' '], .number ['1', '.', '5'])] ++ ['\r'])) = .ok located ∧
      located.map Located.token = [.keyword .null, .identifier ['n', 'u', 'l', 'l', 'x'],
        .string ['\'', '\n', '\''], .number ['1', '.', '5']] := by
  refine ⟨⟨_, by cbv, rfl, tokenize_tiles.1 _ _ (by cbv)⟩, ⟨by cbv, ?_⟩, ?_⟩
  · obtain ⟨position, same, refused⟩ := tokenize_tiles.2.1 "nullx # b" (.unreadable 6) (by cbv)
    cases same
    exact refused
  · have keyword : WellSpelled (.keyword .null) := wellSpelled_iff.mpr rfl
    have name : WellSpelled (.identifier ['n', 'u', 'l', 'l', 'x']) := wellSpelled_iff.mpr (by cbv)
    have text : WellSpelled (.string ['\'', '\n', '\'']) := wellSpelled_iff.mpr (by cbv)
    have number : WellSpelled (.number ['1', '.', '5']) := wellSpelled_iff.mpr (by cbv)
    refine tokenize_tiles.2.2 _ ['\r'] ?_ (by simp) (by simp [blanks])
    simp [blanks, keyword, name, text, number]

end MarkupTree
