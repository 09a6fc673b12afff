import MarkupTree.Call.Basic
/-!
Bindings: how a field of a node gets its value. The spelling of a field says which kind it is, and
the kinds are told apart once, when a tree is read.
-/

namespace MarkupTree

/-- How one field gets its value. -/
inductive Binding where
  | literal (value : Value)
  | path (path : String)
  | expression (source : String)
  | call (call : Call)

/-- Named bindings in order; a name may stand several times, as `a` and `__a` share one. -/
abbrev Bindings := List (String × Binding)

namespace Binding

def isLiteral : Binding → Bool
  | .literal _ => true
  | _ => false

/-- A text under `__name` is a path and one under `==name` an expression; only one mark counts. -/
def classify (key : String) : Value → String × Binding
  | .string text =>
      match key.toList with
      | '_' :: '_' :: name => (String.ofList name, .path text)
      | '=' :: '=' :: name => (String.ofList name, .expression text)
      | _ => (key, .literal (.string text))
  | value =>
      match Call.ofValue? value with
      | some found => (key, .call found)
      | none => (key, .literal value)

def spell (name : String) : Binding → String × Value
  | .literal value => (name, value)
  | .path dotted => ("__" ++ name, .string dotted)
  | .expression source => ("==" ++ name, .string source)
  | .call found => (name, found.toValue)

def equal : Binding → Binding → Bool
  | .literal a, .literal b => a == b
  | .path a, .path b => a == b
  | .expression a, .expression b => a == b
  | .call a, .call b => a == b
  | _, _ => false

instance : BEq Binding := ⟨equal⟩

end Binding

namespace Bindings

def ofFields (fields : Fields Value) : Bindings :=
  fields.map fun entry => Binding.classify entry.1 entry.2

/-- The fields that spell bindings; where two spell the same name, the last value counts. -/
def toFields (bindings : Bindings) : Fields Value :=
  Fields.collect (bindings.map fun entry => entry.2.spell entry.1)

def insertRaw (bindings : Bindings) (key : String) (value : Value) : Bindings :=
  bindings ++ [Binding.classify key value]

def without (bindings : Bindings) (name : String) : Bindings :=
  bindings.filter fun entry => entry.1 != name

/-- The binding stands where the first of its name stood, and alone. -/
def set : Bindings → String → Binding → Bindings
  | [], name, binding => [(name, binding)]
  | entry :: rest, name, binding =>
      if entry.1 = name then (name, binding) :: without rest name
      else entry :: set rest name binding

def get? (bindings : Bindings) (name : String) : Option Binding := bindings.lookup name

/-- The first binding of a name goes; others of the same name stay. -/
def remove : Bindings → String → Bindings
  | [], _ => []
  | entry :: rest, name => if entry.1 = name then rest else entry :: remove rest name

def ofJson? : Json → Option Bindings
  | .object entries => some (ofFields (Fields.collect (Value.ofJsonEntries entries)))
  | _ => none

def toJson (bindings : Bindings) : Json := (Value.object (toFields bindings)).toJson

def equal : Bindings → Bindings → Bool
  | [], [] => true
  | a :: as, b :: bs => a.1 == b.1 && a.2 == b.2 && equal as bs
  | _, _ => false

end Bindings

end MarkupTree
