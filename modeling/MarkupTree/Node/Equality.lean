import MarkupTree.Node.Basic
/-! Equality of component trees: bindings in order, further fields in any order. -/

namespace MarkupTree

namespace Node

def equalBindings : Option Bindings → Option Bindings → Bool
  | none, none => true
  | some a, some b => Bindings.equal a b
  | _, _ => false

mutual

def equal : Node → Node → Bool
  | ⟨element, elementPath, attributes, props, children, childrenPath, childrenExpression, closing,
      fields⟩, other =>
      element == other.element && elementPath == other.elementPath &&
        equalBindings attributes other.attributes && equalBindings props other.props &&
        equalChildren children other.children && childrenPath == other.childrenPath &&
        childrenExpression == other.childrenExpression && closing == other.closing &&
        Value.equalFields fields other.fields

def equalChildren : Option Children → Option Children → Bool
  | none, none => true
  | some a, some b => equalContent a b
  | _, _ => false

def equalContent : Children → Children → Bool
  | .text a, .text b => a == b
  | .nodes a, .nodes b => equalItems a b
  | .call a, .call b => a == b
  | _, _ => false

def equalItems : List Node → List Node → Bool
  | [], [] => true
  | a :: as, b :: bs => equal a b && equalItems as bs
  | _, _ => false

end

instance : BEq Node := ⟨equal⟩

end Node

def Fragment.equal : Fragment → Fragment → Bool
  | .one a, .one b => a == b
  | .many a, .many b => Node.equalItems a b
  | _, _ => false

instance : BEq Fragment := ⟨Fragment.equal⟩

end MarkupTree
