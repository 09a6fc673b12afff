import MarkupTree.Decimal.Reader
import MarkupTree.Json.Basic
import MarkupTree.Text.Pieces
/-!
The tokens of a JSON text. A leaf may be well formed and still stand for nothing: a number beyond
the range of floating-point numbers, or a text with half of a surrogate pair.
-/

namespace MarkupTree.Json

inductive Mark where
  | openArray
  | closeArray
  | openObject
  | closeObject
  | comma
  | colon
  | text (content : Option String)
  | leaf (json : Option Json)

def isBlank (c : Char) : Bool := c = ' ' || c = '\t' || c = '\n' || c = '\r'

def hexDigit? (c : Char) : Option Nat :=
  if '0' ≤ c ∧ c ≤ '9' then some (c.toNat - '0'.toNat)
  else if 'a' ≤ c ∧ c ≤ 'f' then some (c.toNat - 'a'.toNat + 10)
  else if 'A' ≤ c ∧ c ≤ 'F' then some (c.toNat - 'A'.toNat + 10)
  else none

def unit? (a b c d : Char) : Option Nat := do
  let a ← hexDigit? a
  let b ← hexDigit? b
  let c ← hexDigit? c
  let d ← hexDigit? d
  pure (((a * 16 + b) * 16 + c) * 16 + d)

def escaped? : Char → Option Char
  | '"' => some '"'
  | '\\' => some '\\'
  | '/' => some '/'
  | 'b' => some '\x08'
  | 'f' => some '\x0C'
  | 'n' => some '\n'
  | 'r' => some '\r'
  | 't' => some '\t'
  | _ => none

inductive Piece where
  | letter (c : Char)
  | unit (code : Nat)

def textBody : List Char → Option (List Piece × List Char)
  | '"' :: rest => some ([], rest)
  | '\\' :: 'u' :: a :: b :: c :: d :: rest => do
      let code ← unit? a b c d
      let (pieces, behind) ← textBody rest
      pure (.unit code :: pieces, behind)
  | '\\' :: mark :: rest => do
      let letter ← escaped? mark
      let (pieces, behind) ← textBody rest
      pure (.letter letter :: pieces, behind)
  | c :: rest =>
      if c < ' ' ∨ c = '\\' then none
      else (textBody rest).map fun (pieces, behind) => (.letter c :: pieces, behind)
  | [] => none

theorem textBody_length {cs : List Char} {pieces : List Piece} {behind : List Char}
    (found : textBody cs = some (pieces, behind)) : behind.length < cs.length := by
  fun_induction textBody cs generalizing pieces behind with
  | case1 rest => simp_all
  | case2 a b c d rest ih =>
      simp only [bind, Option.bind_eq_some_iff, pure] at found
      obtain ⟨code, _, ⟨found', rest'⟩, inner, equal⟩ := found
      have := ih inner
      simp_all
      omega
  | case3 mark rest _ ih =>
      simp only [bind, Option.bind_eq_some_iff, pure] at found
      obtain ⟨code, _, ⟨found', rest'⟩, inner, equal⟩ := found
      have := ih inner
      simp_all
      omega
  | case4 => simp at found
  | case5 c rest _ _ _ _ ih =>
      simp only [Option.map_eq_some_iff] at found
      obtain ⟨⟨found', rest'⟩, inner, equal⟩ := found
      have := ih inner
      simp_all
      omega
  | case6 => simp at found

def isHigh (code : Nat) : Bool := 0xD800 ≤ code && code < 0xDC00

def isLow (code : Nat) : Bool := 0xDC00 ≤ code && code < 0xE000

/-- The text of the pieces, if no half of a surrogate pair stands alone. -/
def joinPieces : List Piece → Option (List Char)
  | [] => some []
  | .letter c :: rest => (joinPieces rest).map (c :: ·)
  | .unit high :: .unit low :: rest =>
      if isHigh high then
        if isLow low then
          (joinPieces rest).map
            (Char.ofNat (0x10000 + (high - 0xD800) * 0x400 + (low - 0xDC00)) :: ·)
        else none
      else if isLow high then none
      else (joinPieces (.unit low :: rest)).map (Char.ofNat high :: ·)
  | .unit code :: rest =>
      if isHigh code || isLow code then none else (joinPieces rest).map (Char.ofNat code :: ·)

def isNumberLetter (c : Char) : Bool :=
  Decimal.isDigit c || c = '+' || c = '-' || c = '.' || c = 'e' || c = 'E'

def isWhole (digits : List Char) : Bool :=
  match digits with
  | [] => false
  | [_] => true
  | first :: _ => first != '0'

/-- Integers in the range of a machine word stay integers; `-0` is no integer. -/
def integerOr (negative : Bool) (digits : Nat) : Option Json :=
  let n : Int := if negative then -(digits : Int) else digits
  if negative && digits == 0 then some (.number (-0.0))
  else if -0x8000000000000000 ≤ n ∧ n < Decimal.wordLimit then some (.integer n)
  else
    let value := Decimal.negateIf negative (Decimal.scaled digits 0)
    if value.isFinite then some (.number value) else none

/-- A number of the JSON grammar: outer `none` where it is ill formed, inner `none` out of range. -/
def number? (cs : List Char) : Option (Option Json) :=
  let (negative, body) := match cs with
    | '-' :: rest => (true, rest)
    | _ => (false, cs)
  let (whole, rest) := Decimal.spanDigits body
  if !isWhole whole then none
  else
    match rest with
    | [] => some (integerOr negative (Decimal.digitsValue whole))
    | '.' :: behind =>
        let (fraction, tail) := Decimal.spanDigits behind
        if fraction = [] then none else decimal? negative whole fraction tail
    | _ => decimal? negative whole [] rest
where
  decimal? (negative : Bool) (whole fraction tail : List Char) : Option (Option Json) :=
    (Decimal.exponent? tail).map fun exponent =>
      let value := Decimal.negateIf negative
        (Decimal.scaled (Decimal.digitsValue (whole ++ fraction)) (exponent - fraction.length))
      if value.isFinite then some (.number value) else none

def constant? (cs : List Char) : Option Json :=
  match String.ofList cs with
  | "null" => some .null
  | "true" => some (.bool true)
  | "false" => some (.bool false)
  | _ => none

def bracket? : Char → Option Mark
  | '[' => some .openArray
  | ']' => some .closeArray
  | '{' => some .openObject
  | '}' => some .closeObject
  | ',' => some .comma
  | ':' => some .colon
  | _ => none

def marks? : List Char → Option (List Mark)
  | [] => some []
  | c :: rest =>
      if isBlank c then marks? rest
      else if c = '"' then
        match _found : textBody rest with
        | none => none
        | some (pieces, behind) =>
            (marks? behind).map (.text ((joinPieces pieces).map String.ofList) :: ·)
      else if isNumberLetter c then do
        let json ← number? (c :: rest.takeWhile isNumberLetter)
        let marks ← marks? (rest.dropWhile isNumberLetter)
        pure (.leaf json :: marks)
      else if c.isAlpha then do
        let json ← constant? (c :: rest.takeWhile Char.isAlpha)
        let marks ← marks? (rest.dropWhile Char.isAlpha)
        pure (.leaf (some json) :: marks)
      else do
        let mark ← bracket? c
        let marks ← marks? rest
        pure (mark :: marks)
termination_by cs => cs.length
decreasing_by
  all_goals simp_wf
  · have := textBody_length (by assumption)
    omega
  · have := Text.length_dropWhile_le isNumberLetter rest
    omega
  · have := Text.length_dropWhile_le Char.isAlpha rest
    omega

end MarkupTree.Json
