import MarkupTree.Value.Basic
/-! Utilities: host functions that templates call by name. -/

namespace MarkupTree

structure Receiver where
  context : Value
  props : Value

def Receiver.root? (receiver : Receiver) : String → Option Value
  | "context" => some receiver.context
  | "props" => some receiver.props
  | _ => none

/-- A total function of receiver and arguments, which may fail with a message. -/
abbrev Utility := Receiver → List Value → Except String Value

abbrev Utilities := Fields Utility

end MarkupTree
