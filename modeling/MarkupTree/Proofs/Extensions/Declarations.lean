import Mathlib
import MarkupTree.Proofs.Rendering.Calls
import MarkupTree.Proofs.Rendering.History

/-!
What fields declare, and how a node that stands for itself is rendered: as its element, in the scope
with its own props, and within the depth limit.
-/

namespace MarkupTree

namespace Scope

/-- What a declared value comes to: a text is an expression, a call is applied, and any other value
stands for itself. -/
inductive Yields (scope : Scope) : Value → Except Fault (Option Value) → Prop
  | expression (source : String) : Yields scope (.string source) (scope.evaluateSoft source)
  | call {declared : Value} {call : Call} (found : Call.ofValue? declared = some call) :
      Yields scope declared (scope.applyCall call)
  | plain {declared : Value} (noText : ∀ source, declared ≠ .string source)
      (noCall : Call.ofValue? declared = none) : Yields scope declared (.ok (some declared))

variable {scope : Scope} {declared : Value} {result : Except Fault (Option Value)}

theorem valueOf_eq_applyValue (noText : ∀ source, declared ≠ .string source) :
    scope.valueOf declared = scope.applyValue declared := by
  cases declared with
  | string source => exact absurd rfl (noText source)
  | _ => rfl

theorem yields_iff : scope.Yields declared result ↔ scope.valueOf declared = result := by
  constructor
  · intro yields
    cases yields with
    | expression source => rfl
    | call found =>
        have noText (source : String) : declared ≠ .string source := by
          rintro rfl
          cases found
        rw [valueOf_eq_applyValue noText, applyValue_of_call found]
    | plain noText noCall => rw [valueOf_eq_applyValue noText, applyValue_of_plain noCall]
  · rintro rfl
    by_cases text : ∃ source, declared = .string source
    · obtain ⟨source, rfl⟩ := text
      exact .expression source
    · have noText := not_exists.mp text
      rw [valueOf_eq_applyValue noText]
      cases found : Call.ofValue? declared with
      | some call => exact applyValue_of_call found ▸ .call found
      | none => exact applyValue_of_plain found ▸ .plain noText found

end Scope

namespace Renderer

variable {renderer : Renderer}

def scopeAt (renderer : Renderer) (depth : Nat) (props : Value) : Scope :=
  renderer.scope (renderer.renderNodes (depth + 1)) depth props

example (renderer : Renderer) (props : Value) :
    renderer.rootScope props = renderer.scopeAt 0 props := rfl

/-- A node whose element is neither a component nor a name for one. -/
def StandsForItself (renderer : Renderer) (node : Node) : Prop :=
  ∀ name, node.element = some name →
    Fields.find? renderer.components name = none ∧ isComponentName name = false

theorem renderNodes_singleton {depth : Nat} (within : depth ≤ renderer.options.maxDepth)
    (node : Node) (props : Value) :
    renderer.renderNodes depth [node] props =
      renderer.renderNode (renderer.scopeAt depth props) node := by
  have alone : renderer.renderNodes depth [node] props =
      String.join <$> [node].mapM (renderer.renderNode (renderer.scopeAt depth props)) := by
    rw [solves_renderNodes]
    simp only [Nat.not_lt.mpr within, if_false]
    rfl
  rw [alone, List.mapM_cons, List.mapM_nil]
  cases renderer.renderNode (renderer.scopeAt depth props) node with
  | error fault => rfl
  | ok markup =>
      change Except.ok (String.join [markup]) = Except.ok markup
      rw [String.join_cons, String.join_nil, String.append_empty]

theorem StandsForItself.renderNode {node : Node} (itself : renderer.StandsForItself node)
    {scope : Scope} {props : Value} (resolved : nodeProps scope node = .ok props) :
    renderer.renderNode scope node =
      renderElement renderer.extensions (scope.withProps props) node := by
  have unregistered : renderer.component? node = none := by
    cases named : node.element with
    | none => rw [component?, named]; rfl
    | some name => rw [component?, named]; exact (itself name named).1
  have unnamed : node.element.filter isComponentName = none := by
    cases named : node.element with
    | none => rfl
    | some name => simp [Option.filter, (itself name named).2]
  rw [Renderer.renderNode, resolved]
  simp only [bind, Except.bind, unregistered, unnamed]

theorem StandsForItself.renderNodes {node : Node} (itself : renderer.StandsForItself node)
    {depth : Nat} (within : depth ≤ renderer.options.maxDepth) {outer props : Value}
    (resolved : nodeProps (renderer.scopeAt depth outer) node = .ok props) :
    renderer.renderNodes depth [node] outer =
      renderElement renderer.extensions (renderer.scopeAt depth props) node := by
  rw [renderNodes_singleton within, itself.renderNode resolved]
  rfl

end Renderer

end MarkupTree
