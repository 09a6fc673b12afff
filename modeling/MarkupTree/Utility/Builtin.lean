import MarkupTree.Text.Case
import MarkupTree.Utility.Basic
import MarkupTree.Value.Equality
import MarkupTree.Value.Json
import MarkupTree.Value.Path
/-! The utilities that every site has. -/

namespace MarkupTree.Builtin

def argument (arguments : List Value) (index : Nat) : Value := (arguments[index]?).getD .null

def get : Utility := fun receiver arguments =>
  match argument arguments 0 with
  | .string root =>
      match receiver.root? root with
      | some value =>
          let path := ((argument arguments 1).asString?).getD ""
          .ok ((value.lookupPath path).getD .null)
      | none => .error ("get: unknown root '" ++ root ++ "', expected 'context' or 'props'")
  | _ => .error "get: root must be a string"

def itemsOf : Value → List Value
  | .array items => items
  | value => [value]

/-- Arrays behind an array are joined with it; everything else is joined as text. -/
def concat : Utility := fun _ arguments =>
  match arguments with
  | .array _ :: _ => .ok (.array (arguments.flatMap itemsOf))
  | _ =>
      let shown := (arguments.filter fun value => !value.isNull).map Value.display
      .ok (.string (String.join shown))

def separator : Option Value → String
  | some (.string text) => text
  | _ => ","

def join : Utility := fun _ arguments =>
  match arguments with
  | .array items :: _ =>
      .ok (.string (String.intercalate (separator arguments[1]?) (Value.displayItems items)))
  | other :: _ => .error ("join: expected an array, got " ++ other.kind.name)
  | [] => .error "join: missing array argument"

def equals : Utility := fun _ arguments =>
  .ok (.bool (argument arguments 0 == argument arguments 1))

def not : Utility := fun _ arguments => .ok (.bool (!(argument arguments 0).isTruthy))

def stringify : Utility := fun _ arguments => .ok (.string (argument arguments 0).jsonText)

def uppercase : Utility := fun _ arguments =>
  .ok (.string (String.ofList (Text.upper (argument arguments 0).display.toList)))

def lowercase : Utility := fun _ arguments =>
  .ok (.string (String.ofList (Text.lower (argument arguments 0).display.toList)))

def all : Utilities :=
  [("get", get), ("concat", concat), ("join", join), ("equals", equals), ("not", not),
    ("stringify", stringify), ("uppercase", uppercase), ("lowercase", lowercase)]

end MarkupTree.Builtin
