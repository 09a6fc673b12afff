import MarkupTree.Value.Equality
import MarkupTree.Value.Json
/-! Structured calls: a utility by name, with parameters. -/

namespace MarkupTree

structure Call where
  utility : String
  parameters : List Value

namespace Call

/-- The parameters of a call found in a value: a single one needs no array. -/
def parametersOf : Option Value → List Value
  | none => []
  | some .null => []
  | some (.array items) => items
  | some single => [single]

def ofValue? : Value → Option Call
  | .object fields =>
      match Fields.find? fields "utility" with
      | some (.string utility) => some ⟨utility, parametersOf (Fields.find? fields "parameters")⟩
      | _ => none
  | _ => none

theorem sizeOf_find? {fields : Fields Value} {name : String} {value : Value}
    (found : Fields.find? fields name = some value) :
    sizeOf value + 2 < sizeOf fields := by
  induction fields with
  | nil => simp [Fields.find?] at found
  | cons entry rest ih =>
      obtain ⟨other, held⟩ := entry
      simp only [Fields.find?, List.lookup_cons] at found
      split at found
      · rename_i same
        simp only [beq_iff_eq] at same
        simp only [Option.some.injEq] at found
        subst same found
        have : 0 < sizeOf rest := by
          cases rest <;> simp only [List.nil.sizeOf_spec, List.cons.sizeOf_spec] <;> omega
        simp
        omega
      · have := ih found
        simp
        omega

theorem sizeOf_parametersOf (value : Option Value) :
    sizeOf (parametersOf value) ≤ sizeOf value + 1 := by
  unfold parametersOf
  split <;> simp
  all_goals omega

theorem sizeOf_parameters {value : Value} {call : Call} (found : ofValue? value = some call) :
    sizeOf call.parameters < sizeOf value := by
  unfold ofValue? at found
  split at found
  · rename_i fields
    split at found
    · rename_i utility named
      simp only [Option.some.injEq] at found
      subst found
      have first := sizeOf_find? named
      cases given : Fields.find? fields "parameters" with
      | none =>
          simp [parametersOf] at first ⊢
          omega
      | some parameters =>
          have second := sizeOf_find? given
          have bound := sizeOf_parametersOf (some parameters)
          simp at second bound ⊢
          omega
    · simp at found
  · simp at found

def toFields (call : Call) : Fields Value :=
  ("utility", .string call.utility) ::
    if call.parameters.isEmpty then [] else [("parameters", .array call.parameters)]

def toValue (call : Call) : Value := .object call.toFields

def toJson (call : Call) : Json := call.toValue.toJson

/-- The parameters of a call in a tree are an array, where there are any. -/
def parametersOfJson? : Option Json → Option (List Value)
  | none => some []
  | some (.array items) => some (Value.ofJsonItems items)
  | some _ => none

/-- A call in a tree: an object, or an array of a name and parameters. -/
def ofJson? : Json → Option Call
  | .object entries =>
      if Json.once entries "utility" && Json.once entries "parameters" then
        match entries.lookup "utility" with
        | some (.string utility) =>
            (parametersOfJson? (entries.lookup "parameters")).map fun parameters =>
              ⟨utility, parameters⟩
        | _ => none
      else none
  | .array [.string utility] => some ⟨utility, []⟩
  | .array [.string utility, .array items] => some ⟨utility, Value.ofJsonItems items⟩
  | _ => none

def equal (a b : Call) : Bool :=
  a.utility == b.utility && Value.equalItems a.parameters b.parameters

instance : BEq Call := ⟨equal⟩

end Call

end MarkupTree
