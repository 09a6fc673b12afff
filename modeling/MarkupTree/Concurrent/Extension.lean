import MarkupTree.Concurrent.Binding
import MarkupTree.Extension.Chain
/-!
Extensions where utilities may suspend. The steps of a chain come one after the other; the items of
an iteration are waited for together.
-/

namespace MarkupTree.Concurrent

inductive Extension where
  | visibleIf
  | classShortcut (transform : Option String)
  | foreach
  | custom (name : String) (change : Scope → Node → Deferred Fault Verdict)

def VisibleIf.apply (scope : Scope) (node : Node) : Deferred Fault Verdict :=
  match node.field? VisibleIf.field with
  | none => pure (.proceed node)
  | some condition => do
      let value ← scope.valueOf condition
      return if VisibleIf.isVisible value then .proceed (node.withoutField VisibleIf.field) else .stop

namespace ClassShortcut

def conditional (scope : Scope) : List (String × Value) → Deferred Fault (List String)
  | [] => pure []
  | (name, condition) :: rest => do
      let value ← scope.valueOf condition
      let others ← conditional scope rest
      return if Operand.isTruthy value then name :: others else others

def ofPlain (scope : Scope) : Option Value → Deferred Fault (List String)
  | some (.object conditions) => conditional scope conditions
  | some value => pure (MarkupTree.ClassShortcut.className value).toList
  | none => pure []

def ofExpression (scope : Scope) : Option Value → Deferred Fault (List String)
  | some (.string source) => do
      let value ← scope.evaluateSoft source
      return (value.bind MarkupTree.ClassShortcut.className).toList
  | _ => pure []

def ofList (scope : Scope) : Option Value → Deferred Fault (List String)
  | some (.object conditions) => conditional scope conditions
  | _ => pure []

def classes (scope : Scope) (node : Node) : Deferred Fault (List String) := do
  let plain ← ofPlain scope (node.field? "class")
  let path := MarkupTree.ClassShortcut.ofPath scope.settled (node.field? "__class")
  let expression ← ofExpression scope (node.field? "==class")
  let list ← ofList scope (node.field? "classList")
  return (plain ++ path ++ expression ++ list).filter (· ≠ "")

def expansion (joined : String) : Except String Value → Except Fault String
  | .ok value => .ok value.display
  | .error _ => .ok joined

def expand (scope : Scope) (transform : Option String) (joined : String) : Deferred Fault String :=
  match transform with
  | none => pure joined
  | some name =>
      match Fields.find? scope.utilities name with
      | none => .done (.error (.utilityNotFound name))
      | some utility => (utility scope.receiver [.string joined]).convert (expansion joined)

def apply (transform : Option String) (scope : Scope) (node : Node) : Deferred Fault Verdict := do
  let found ← classes scope node
  let bare := MarkupTree.ClassShortcut.withoutFields node
  if found.isEmpty then return .proceed bare
  else
    let expanded ← expand scope transform (String.intercalate " " found)
    if expanded = "" then return .proceed bare
    else return .proceed (bare.setAttribute "class" (.string expanded))

end ClassShortcut

def Foreach.apply (scope : Scope) (node : Node) : Deferred Fault Verdict :=
  match node.field? Foreach.field with
  | none => pure (.proceed node)
  | some declaration => do
      let (source, body) ← .done (Foreach.parts declaration)
      let value ← scope.valueOf source
      let found ← .done (Foreach.items source value)
      let fragment ← .done (Foreach.template body)
      let contents ← Deferred.join
        (fun item => scope.renderWithProps fragment (Foreach.itemProps item)) found
      return .proceed ((node.withoutField Foreach.field).withText (String.join contents))

namespace Extension

def apply (scope : Scope) (node : Node) : Extension → Deferred Fault Verdict
  | .visibleIf => VisibleIf.apply scope node
  | .classShortcut transform => ClassShortcut.apply transform scope node
  | .foreach => Foreach.apply scope node
  | .custom _ change => change scope node

def applyAll (scope : Scope) : List Extension → Node → Deferred Fault Verdict
  | [], node => pure (.proceed node)
  | extension :: rest, node => do
      match ← extension.apply scope node with
      | .proceed next => applyAll scope rest next
      | .stop => return .stop

end Extension

end MarkupTree.Concurrent
