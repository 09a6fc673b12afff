import MarkupTree.Fault
import MarkupTree.Node.Json
/-! Component trees found in runtime values. -/

namespace MarkupTree

/-- A value read as the tree that its JSON document spells. -/
def Fragment.ofValue (value : Value) : Except TargetFault Fragment :=
  match value.kind with
  | .object | .array =>
      match Fragment.ofJson? value.toJson with
      | some fragment => .ok fragment
      | none => .error .malformed
  | found => .error (.wrongKind found)

end MarkupTree
