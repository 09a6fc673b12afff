import MarkupTree.Text.CaseTable
import MarkupTree.Text.ClassTable
/-! Upper and lower case of texts, with every mapping of the Unicode standard. -/

namespace MarkupTree.Text

def isUppercase (c : Char) : Bool := memberOf uppercaseRuns c

def isCased (c : Char) : Bool := memberOf casedRuns c

def isCaseIgnorable (c : Char) : Bool := memberOf ignorableRuns c

def mapLetter (expansions : List (Nat × List Nat)) (shifts : List Shift) (c : Char) : List Char :=
  match expansions.lookup c.toNat with
  | some codes => codes.map Char.ofNat
  | none =>
      match shifts.find? fun shift => shift.run.has c.toNat with
      | some shift => [Char.ofNat (c.toNat + shift.distance).toNat]
      | none => [c]

def upperLetter (c : Char) : List Char := mapLetter upperExpansions upperShifts c

def lowerLetter (c : Char) : List Char := mapLetter lowerExpansions lowerShifts c

def upper (cs : List Char) : List Char := cs.flatMap upperLetter

def opensCased (cs : List Char) : Bool :=
  match cs.dropWhile isCaseIgnorable with
  | [] => false
  | c :: _ => isCased c

/-- Lower case behind the letters of `before`, the nearest first: a capital sigma that ends a word
has a form of its own. -/
def lowerBehind : List Char → List Char → List Char
  | _, [] => []
  | before, c :: rest =>
      let lowered :=
        if c = 'Σ' then [if opensCased before && !opensCased rest then 'ς' else 'σ']
        else lowerLetter c
      lowered ++ lowerBehind (c :: before) rest

def lower (cs : List Char) : List Char := lowerBehind [] cs

end MarkupTree.Text
