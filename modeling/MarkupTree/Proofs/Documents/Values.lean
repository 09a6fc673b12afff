import MarkupTree.Binding.Basic
import MarkupTree.Proofs.Values.Numbers

/-!
Values, calls and bindings that were read from a document: written as a document again they are read
back the same, but for the sign of zeros, which integers do not have. A binding may be spelled in
several ways, and the one that it is written in has the key that it was read under.
-/

namespace MarkupTree

namespace Json

mutual

/-- Every number in a document is finite. -/
def IsFinite : Json → Prop
  | .integer n => (Float.ofInt n).isFinite = true
  | .number n => n.isFinite = true
  | .array items => ItemsFinite items
  | .object entries => EntriesFinite entries
  | _ => True

def ItemsFinite : List Json → Prop
  | [] => True
  | item :: rest => item.IsFinite ∧ ItemsFinite rest

def EntriesFinite : List (String × Json) → Prop
  | [] => True
  | (_, json) :: rest => json.IsFinite ∧ EntriesFinite rest

end

theorem EntriesFinite.lookup {entries : List (String × Json)} (finite : EntriesFinite entries)
    {name : String} {json : Json} (found : entries.lookup name = some json) : json.IsFinite := by
  induction entries with
  | nil => cases found
  | cons entry rest ih =>
      rw [List.lookup_cons] at found
      split at found
      · cases found
        exact finite.1
      · exact ih finite.2 found

end Json

namespace Value

mutual

def Spelled : Value → Prop
  | .number n => n.isFinite = true
  | .array items => ItemsSpelled items
  | .object fields => Fields.Distinct fields ∧ FieldsSpelled fields
  | _ => True

def ItemsSpelled : List Value → Prop
  | [] => True
  | item :: rest => item.Spelled ∧ ItemsSpelled rest

def FieldsSpelled : List (String × Value) → Prop
  | [] => True
  | (_, value) :: rest => value.Spelled ∧ FieldsSpelled rest

end

theorem fieldsSpelled_iff {fields : Fields Value} :
    FieldsSpelled fields ↔ ∀ entry ∈ fields, entry.2.Spelled := by
  induction fields with
  | nil => simp [FieldsSpelled]
  | cons entry rest ih => simp [FieldsSpelled, ih]

theorem FieldsSpelled.find? {fields : Fields Value} (spelled : FieldsSpelled fields) {name : String}
    {value : Value} (found : Fields.find? fields name = some value) : value.Spelled :=
  fieldsSpelled_iff.mp spelled _ (Fields.mem_of_find?_eq_some found)

theorem FieldsSpelled.collect {entries : List (String × Value)} (spelled : FieldsSpelled entries) :
    FieldsSpelled (Fields.collect entries) :=
  fieldsSpelled_iff.mpr fun entry member =>
    fieldsSpelled_iff.mp spelled entry (Fields.mem_of_mem_collect member)

mutual

theorem spelled_ofJson : ∀ {json : Json}, json.IsFinite → (ofJson json).Spelled
  | .null, _ | .bool _, _ | .string _, _ => trivial
  | .integer _, finite | .number _, finite => finite
  | .array _, finite => itemsSpelled_ofJsonItems finite
  | .object _, finite => ⟨Fields.distinct_collect _, (fieldsSpelled_ofJsonEntries finite).collect⟩

theorem itemsSpelled_ofJsonItems :
    ∀ {items : List Json}, Json.ItemsFinite items → ItemsSpelled (ofJsonItems items)
  | [], _ => trivial
  | _ :: _, finite => ⟨spelled_ofJson finite.1, itemsSpelled_ofJsonItems finite.2⟩

theorem fieldsSpelled_ofJsonEntries :
    ∀ {entries : List (String × Json)}, Json.EntriesFinite entries →
      FieldsSpelled (ofJsonEntries entries)
  | [], _ => trivial
  | (_, _) :: _, finite => ⟨spelled_ofJson finite.1, fieldsSpelled_ofJsonEntries finite.2⟩

end

mutual

def unsigned : Value → Value
  | .null => .null
  | .bool flag => .bool flag
  | .number n => .number (Decimal.unsigned n)
  | .string text => .string text
  | .array items => .array (unsignedItems items)
  | .object fields => .object (unsignedFields fields)

def unsignedItems : List Value → List Value
  | [] => []
  | item :: rest => item.unsigned :: unsignedItems rest

def unsignedFields : List (String × Value) → List (String × Value)
  | [] => []
  | (name, value) :: rest => (name, value.unsigned) :: unsignedFields rest

end

theorem unsignedFields_eq (fields : Fields Value) :
    unsignedFields fields = Fields.mapValues unsigned fields := by
  induction fields with
  | nil => rfl
  | cons field rest ih => exact congrArg (_ :: ·) ih

theorem find?_unsignedFields (fields : Fields Value) (name : String) :
    Fields.find? (unsignedFields fields) name = (Fields.find? fields name).map unsigned := by
  rw [unsignedFields_eq, Fields.find?_mapValues]

theorem names_unsignedFields (fields : Fields Value) :
    Fields.names (unsignedFields fields) = Fields.names fields := by
  rw [unsignedFields_eq, Fields.names_mapValues]

theorem distinct_unsignedFields {fields : Fields Value} (distinct : Fields.Distinct fields) :
    Fields.Distinct (unsignedFields fields) := by
  rw [Fields.Distinct, names_unsignedFields]
  exact distinct

theorem ofJson_numberToJson {n : Float} (finite : n.isFinite = true) :
    ofJson (numberToJson n) = .number (Decimal.unsigned n) := by
  unfold numberToJson
  split
  · rename_i k found
    rw [ofJson, Decimal.ofInt_integer? found]
  · rename_i fraction
    rw [if_pos finite, ofJson, Decimal.unsigned_of_integer?_eq_none fraction]

mutual

theorem ofJson_toJson : ∀ {value : Value}, value.Spelled → ofJson value.toJson = value.unsigned
  | .null, _ | .bool _, _ | .string _, _ => rfl
  | .number _, finite => ofJson_numberToJson finite
  | .array _, spelled => by rw [toJson, ofJson, ofJsonItems_toJsonItems spelled, unsigned]
  | .object fields, spelled => by
      rw [toJson, ofJson, ofJsonEntries_toJsonEntries spelled.2,
        Fields.collect_of_distinct (distinct_unsignedFields spelled.1), unsigned]

theorem ofJsonItems_toJsonItems :
    ∀ {items : List Value}, ItemsSpelled items → ofJsonItems (toJsonItems items) = unsignedItems items
  | [], _ => rfl
  | _ :: _, spelled => by
      rw [toJsonItems, ofJsonItems, ofJson_toJson spelled.1, ofJsonItems_toJsonItems spelled.2,
        unsignedItems]

theorem ofJsonEntries_toJsonEntries :
    ∀ {fields : List (String × Value)}, FieldsSpelled fields →
      ofJsonEntries (toJsonEntries fields) = unsignedFields fields
  | [], _ => rfl
  | (_, _) :: _, spelled => by
      rw [toJsonEntries, ofJsonEntries, ofJson_toJson spelled.1,
        ofJsonEntries_toJsonEntries spelled.2, unsignedFields]

end

/-! A value that a document spells is equal to the one without the signs of its zeros. -/

theorem object_beq_unsigned {fields : Fields Value} (distinct : Fields.Distinct fields)
    (each : ∀ entry ∈ fields, (entry.2.unsigned == entry.2) = true) :
    (Value.object (unsignedFields fields) == .object fields) = true := by
  rw [object_beq_iff (distinct_unsignedFields distinct) distinct]
  intro name
  rw [find?_unsignedFields]
  cases found : Fields.find? fields name with
  | none => rfl
  | some value => exact each _ (Fields.mem_of_find?_eq_some found)

mutual

theorem beq_unsigned : ∀ {value : Value}, value.Spelled → (value.unsigned == value) = true
  | .null, _ => rfl
  | .bool flag, _ => (BEq.rfl : (flag == flag) = true)
  | .string text, _ => (BEq.rfl : (text == text) = true)
  | .number _, finite => Decimal.unsigned_beq finite
  | .array _, spelled => equalItems_unsigned spelled
  | .object _, spelled => object_beq_unsigned spelled.1 (fields_beq_unsigned spelled.2)

theorem equalItems_unsigned :
    ∀ {items : List Value}, ItemsSpelled items → equalItems (unsignedItems items) items = true
  | [], _ => rfl
  | _ :: _, spelled => by
      rw [unsignedItems, equalItems, Bool.and_eq_true]
      exact ⟨beq_unsigned spelled.1, equalItems_unsigned spelled.2⟩

theorem fields_beq_unsigned : ∀ {fields : List (String × Value)}, FieldsSpelled fields →
    ∀ entry ∈ fields, (entry.2.unsigned == entry.2) = true
  | [], _ => List.forall_mem_nil _
  | (_, _) :: _, spelled =>
      List.forall_mem_cons.mpr ⟨beq_unsigned spelled.1, fields_beq_unsigned spelled.2⟩

end

end Value

namespace Call

def Spelled (call : Call) : Prop := Value.ItemsSpelled call.parameters

theorem ofValue?_toValue (call : Call) : ofValue? call.toValue = some call := by
  obtain ⟨utility, parameters⟩ := call
  cases parameters <;> rfl

theorem spelled_toValue {call : Call} (spelled : call.Spelled) : call.toValue.Spelled := by
  obtain ⟨utility, parameters⟩ := call
  cases parameters with
  | nil => exact ⟨List.pairwise_singleton _ _, trivial, trivial⟩
  | cons first rest =>
      have names : ["utility", "parameters"].Nodup := by decide
      exact ⟨names, trivial, spelled, trivial⟩

theorem spelled_of_ofValue? {value : Value} {call : Call} (spelled : value.Spelled)
    (found : ofValue? value = some call) : call.Spelled := by
  unfold ofValue? at found
  split at found
  · rename_i fields
    split at found
    · cases found
      change Value.ItemsSpelled (parametersOf _)
      cases given : Fields.find? fields "parameters" with
      | none => trivial
      | some parameters =>
          have each : parameters.Spelled := spelled.2.find? given
          unfold parametersOf
          split
          · trivial
          · trivial
          · rename_i same
            cases same
            exact each
          · rename_i same
            cases same
            exact ⟨each, trivial⟩
    · cases found
  · cases found

def unsigned (call : Call) : Call := ⟨call.utility, Value.unsignedItems call.parameters⟩

theorem ofJson?_toJson {call : Call} (spelled : call.Spelled) :
    ofJson? call.toJson = some call.unsigned := by
  obtain ⟨utility, parameters⟩ := call
  cases parameters with
  | nil => rfl
  | cons first rest =>
      have read := Value.ofJsonItems_toJsonItems spelled
      change some (Call.mk utility (Value.ofJsonItems (Value.toJsonItems (first :: rest)))) = _
      rw [read]
      rfl

theorem ofValue?_unsigned (value : Value) :
    ofValue? value.unsigned = (ofValue? value).map unsigned := by
  have parameters (given : Option Value) :
      parametersOf (given.map Value.unsigned) = Value.unsignedItems (parametersOf given) := by
    cases given with
    | none => rfl
    | some value => cases value <;> rfl
  cases value with
  | object fields =>
      simp only [Value.unsigned, ofValue?, Value.find?_unsignedFields, parameters]
      cases Fields.find? fields "utility" with
      | none => rfl
      | some named => cases named <;> rfl
  | _ => rfl

theorem beq_unsigned {call : Call} (spelled : call.Spelled) : (call.unsigned == call) = true := by
  change (call.utility == call.utility &&
    Value.equalItems (Value.unsignedItems call.parameters) call.parameters) = true
  rw [Value.equalItems_unsigned spelled, beq_self_eq_true]
  rfl

theorem spelled_of_ofJson? {json : Json} {call : Call} (finite : json.IsFinite)
    (found : ofJson? json = some call) : call.Spelled := by
  unfold ofJson? at found
  split at found
  · rename_i entries
    split at found
    · split at found
      · obtain ⟨parameters, given, rfl⟩ := Option.map_eq_some_iff.mp found
        unfold parametersOfJson? at given
        split at given
        · cases given
          trivial
        · rename_i items listed
          cases given
          have each : Json.IsFinite (.array items) := Json.EntriesFinite.lookup finite listed
          exact Value.itemsSpelled_ofJsonItems each
        · cases given
      · cases found
    · cases found
  · cases found
    trivial
  · cases found
    exact Value.itemsSpelled_ofJsonItems finite.2.1
  · cases found

end Call

namespace Binding

/-- The value that a binding is written with: calls have one spelling. -/
def canonical (value : Value) : Value :=
  match Call.ofValue? value with
  | some found => found.toValue
  | none => value

theorem spell_classify (key : String) (value : Value) :
    (classify key value).2.spell (classify key value).1 = (key, canonical value) := by
  have keyed {first second : Char} {name : List Char}
      (letters : key.toList = first :: second :: name) :
      String.ofList [first, second] ++ String.ofList name = key := by
    rw [← String.ofList_append, ← String.ofList_toList (s := key), letters]
    rfl
  unfold classify
  split
  · split
    · rename_i name letters
      exact Prod.ext (keyed letters) rfl
    · rename_i name letters
      exact Prod.ext (keyed letters) rfl
    · rfl
  · split
    · rename_i found
      simp only [canonical, found]
      rfl
    · rename_i found
      simp only [canonical, found]
      rfl

theorem classify_canonical (key : String) (value : Value) :
    classify key (canonical value) = classify key value := by
  unfold canonical
  split
  · rename_i call found
    have again := Call.ofValue?_toValue call
    cases value with
    | object fields =>
        change (match Call.ofValue? call.toValue with
          | some found => (key, Binding.call found)
          | none => (key, .literal call.toValue)) = _
        rw [again, classify, found]
        rintro text impossible
        cases impossible
    | _ => cases found
  · rfl

def unsigned : Binding → Binding
  | .literal value => .literal value.unsigned
  | .path dotted => .path dotted
  | .expression source => .expression source
  | .call found => .call found.unsigned

theorem classify_unsigned (key : String) (value : Value) :
    classify key value.unsigned = ((classify key value).1, (classify key value).2.unsigned) := by
  cases value with
  | string text =>
      change classify key (.string text) = _
      unfold classify
      dsimp only
      split <;> rfl
  | object fields =>
      have called := Call.ofValue?_unsigned (.object fields)
      unfold classify
      simp only [Value.unsigned] at called ⊢
      rw [called]
      cases Call.ofValue? (.object fields) <;> rfl
  | _ => rfl

theorem beq_unsigned_classify (key : String) {value : Value} (spelled : value.Spelled) :
    ((classify key value).2.unsigned == (classify key value).2) = true := by
  unfold classify
  split
  · split
    · exact (BEq.rfl : ((_ : String) == _) = true)
    · exact (BEq.rfl : ((_ : String) == _) = true)
    · exact Value.beq_unsigned spelled
  · split
    · rename_i call found
      exact Call.beq_unsigned (Call.spelled_of_ofValue? spelled found)
    · exact Value.beq_unsigned spelled

theorem spelled_canonical {value : Value} (spelled : value.Spelled) :
    (canonical value).Spelled := by
  unfold canonical
  split
  · rename_i call found
    exact Call.spelled_toValue (Call.spelled_of_ofValue? spelled found)
  · exact spelled

end Binding

namespace Bindings

def Spelled (bindings : Bindings) : Prop :=
  ∃ fields, Fields.Distinct fields ∧ Value.FieldsSpelled fields ∧ ofFields fields = bindings

theorem spelled_of_ofJson? {json : Json} {bindings : Bindings} (finite : json.IsFinite)
    (read : ofJson? json = some bindings) : bindings.Spelled := by
  unfold ofJson? at read
  split at read
  · cases read
    exact ⟨_, Fields.distinct_collect _, (Value.fieldsSpelled_ofJsonEntries finite).collect, rfl⟩
  · cases read

theorem toFields_ofFields {fields : Fields Value} (distinct : Fields.Distinct fields) :
    toFields (ofFields fields) = Fields.mapValues Binding.canonical fields := by
  have spelled : (ofFields fields).map (fun entry => entry.2.spell entry.1) =
      Fields.mapValues Binding.canonical fields := by
    rw [ofFields, List.map_map]
    exact List.map_congr_left fun entry _ => Binding.spell_classify entry.1 entry.2
  rw [toFields, spelled]
  refine Fields.collect_of_distinct ?_
  rw [Fields.Distinct, Fields.names_mapValues]
  exact distinct

theorem ofFields_canonical (fields : Fields Value) :
    ofFields (Fields.mapValues Binding.canonical fields) = ofFields fields := by
  rw [ofFields, Fields.mapValues, List.map_map]
  exact List.map_congr_left fun entry _ => Binding.classify_canonical entry.1 entry.2

def unsigned (bindings : Bindings) : Bindings :=
  bindings.map fun entry => (entry.1, entry.2.unsigned)

theorem ofFields_unsigned (fields : Fields Value) :
    ofFields (Value.unsignedFields fields) = (ofFields fields).unsigned := by
  rw [Value.unsignedFields_eq, ofFields, Fields.mapValues, ofFields, unsigned, List.map_map,
    List.map_map]
  exact List.map_congr_left fun entry _ => Binding.classify_unsigned entry.1 entry.2

/-- No binding is lost, merged with another one, or read back as another kind. -/
theorem ofJson?_toJson {bindings : Bindings} (spelled : bindings.Spelled) :
    ofJson? bindings.toJson = some bindings.unsigned := by
  obtain ⟨fields, distinct, each, rfl⟩ := spelled
  have canonical : Value.FieldsSpelled (Fields.mapValues Binding.canonical fields) := by
    refine Value.fieldsSpelled_iff.mpr ?_
    intro entry member
    obtain ⟨field, given, rfl⟩ := List.mem_map.mp member
    exact Binding.spelled_canonical (Value.fieldsSpelled_iff.mp each field given)
  have names : Fields.Distinct (Fields.mapValues Binding.canonical fields) := by
    rw [Fields.Distinct, Fields.names_mapValues]
    exact distinct
  rw [toJson, toFields_ofFields distinct, Value.toJson, ofJson?,
    Value.ofJsonEntries_toJsonEntries canonical,
    Fields.collect_of_distinct (Value.distinct_unsignedFields names), ofFields_unsigned,
    ofFields_canonical]

theorem equal_unsigned {bindings : Bindings} (spelled : bindings.Spelled) :
    equal bindings.unsigned bindings = true := by
  obtain ⟨fields, -, each, rfl⟩ := spelled
  induction fields with
  | nil => rfl
  | cons field rest ih =>
      have own := Binding.beq_unsigned_classify field.1 each.1
      change ((_ == _) && (_ == _) && equal (unsigned (ofFields rest)) (ofFields rest)) = true
      rw [ih each.2, own, beq_self_eq_true]
      rfl

end Bindings

end MarkupTree
