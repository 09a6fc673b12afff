import MarkupTree.Decimal.Reader
import MarkupTree.Json.Basic
/-! Options of rendering. -/

namespace MarkupTree

structure Options where
  /-- The depth down to which nodes are rendered. -/
  maxDepth : Nat := 64
  deriving DecidableEq, Repr

def Json.word? : Json → Option Nat
  | .integer n => if 0 ≤ n ∧ n < Decimal.wordLimit then some n.toNat else none
  | _ => none

/-- Options by name or by place; what is not given has its default. -/
def Options.ofJson? : Json → Option Options
  | .object entries =>
      match entries.lookup "maxDepth" with
      | none => some {}
      | some json => json.word?.map fun maxDepth => { maxDepth := maxDepth }
  | .array [] => some {}
  | .array [json] => json.word?.map fun maxDepth => { maxDepth := maxDepth }
  | _ => none

end MarkupTree
