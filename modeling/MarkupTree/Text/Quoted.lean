import MarkupTree.Text.ClassTable
/-! Texts in double quotes for messages, with escapes for what a reader could not see. -/

namespace MarkupTree.Text

def fillerRuns : List Run :=
  [⟨0x115F, 0x1160, 1⟩, ⟨0x3164, 0x3164, 1⟩, ⟨0xFFA0, 0xFFA0, 1⟩]

/-- The voiced sound marks of half width: they extend a letter, but in a place of their own. -/
def spacedMarkRuns : List Run := [⟨0xFF9E, 0xFF9F, 1⟩]

def isHidden (c : Char) : Bool := c != ' ' && (memberOf hiddenRuns c || memberOf fillerRuns c)

def isAttached (c : Char) : Bool := memberOf extendRuns c && !memberOf spacedMarkRuns c

def isVisible (c : Char) : Bool := !(isHidden c || isAttached c)

def codeEscape (c : Char) : List Char :=
  '\\' :: 'u' :: '{' :: (Nat.toDigits 16 c.toNat ++ ['}'])

def escapeLetter (quotes : List Char) (c : Char) : List Char :=
  match c with
  | '\x00' => ['\\', '0']
  | '\t' => ['\\', 't']
  | '\r' => ['\\', 'r']
  | '\n' => ['\\', 'n']
  | '\\' => ['\\', '\\']
  | c => if c ∈ quotes then ['\\', c] else if isVisible c then [c] else codeEscape c

def quotedWith (quotes : List Char) (text : String) : String :=
  String.ofList ('"' :: (text.toList.flatMap (escapeLetter quotes) ++ ['"']))

def quotedName (text : String) : String := quotedWith ['"'] text

def quotedPath (text : String) : String := quotedWith ['"', '\''] text

end MarkupTree.Text
