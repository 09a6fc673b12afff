import MarkupTree.Proofs.Documents.Trees

/-!
Structured calls in documents. The content of a node and the value of a field each have a reader of
their own; in a document that names its entries once the two agree but for two spellings. A call by
position is read as content only, and a call whose parameters are no list as a value only.
-/

namespace MarkupTree

namespace Json

mutual

/-- Every object in a document names its entries once. -/
def Settled : Json → Prop
  | .array items => ItemsSettled items
  | .object entries => Fields.Distinct entries ∧ EntriesSettled entries
  | _ => True

def ItemsSettled : List Json → Prop
  | [] => True
  | item :: rest => item.Settled ∧ ItemsSettled rest

def EntriesSettled : List (String × Json) → Prop
  | [] => True
  | (_, json) :: rest => json.Settled ∧ EntriesSettled rest

end

theorem entriesSettled_iff {entries : List (String × Json)} :
    EntriesSettled entries ↔ ∀ entry ∈ entries, entry.2.Settled := by
  induction entries with
  | nil => simp [EntriesSettled]
  | cons entry rest ih => simp [EntriesSettled, ih]

mutual

theorem settled_settle : ∀ json : Json, json.settle.Settled
  | .null | .bool _ | .integer _ | .number _ | .string _ => trivial
  | .array items => itemsSettled_settleItems items
  | .object entries =>
      ⟨Fields.distinct_collect _, entriesSettled_iff.mpr fun entry member =>
        entriesSettled_iff.mp (entriesSettled_settleEntries entries) entry
          (Fields.mem_of_mem_collect member)⟩

theorem itemsSettled_settleItems : ∀ items : List Json, ItemsSettled (settleItems items)
  | [] => trivial
  | item :: rest => ⟨settled_settle item, itemsSettled_settleItems rest⟩

theorem entriesSettled_settleEntries :
    ∀ entries : List (String × Json), EntriesSettled (settleEntries entries)
  | [] => trivial
  | (_, json) :: rest => ⟨settled_settle json, entriesSettled_settleEntries rest⟩

end

theorem once_of_distinct {entries : List (String × Json)} (distinct : Fields.Distinct entries)
    (name : String) : once entries name = true :=
  Node.once_of_count_le (List.nodup_iff_count_le_one.mp distinct name)

/-- A call by position: a name, and perhaps a list of parameters. -/
def IsPositional : Json → Prop
  | .array [.string _] | .array [.string _, .array _] => True
  | _ => False

/-- An object that names a utility and gives it parameters that are no list. -/
def HasLooseParameters : Json → Prop
  | .object entries =>
      (∃ utility, entries.lookup "utility" = some (.string utility)) ∧
        ∃ given, entries.lookup "parameters" = some given ∧ ∀ items, given ≠ .array items
  | _ => False

end Json

namespace Value

theorem lookup_ofJsonEntries (entries : List (String × Json)) (name : String) :
    (ofJsonEntries entries).lookup name = (entries.lookup name).map ofJson := by
  induction entries with
  | nil => rfl
  | cons entry rest ih =>
      obtain ⟨other, json⟩ := entry
      rw [ofJsonEntries, List.lookup_cons, List.lookup_cons]
      split
      · rfl
      · exact ih

theorem names_ofJsonEntries (entries : List (String × Json)) :
    Fields.names (ofJsonEntries entries) = Fields.names entries := by
  induction entries with
  | nil => rfl
  | cons entry rest ih => exact congrArg (entry.1 :: ·) ih

theorem ofJson_object {entries : List (String × Json)} (distinct : Fields.Distinct entries) :
    ofJson (.object entries) = .object (ofJsonEntries entries) := by
  have names : Fields.Distinct (ofJsonEntries entries) := by
    rw [Fields.Distinct, names_ofJsonEntries]
    exact distinct
  rw [ofJson, Fields.collect_of_distinct names]

end Value

namespace Call

variable {entries : List (String × Json)}

theorem ofJson?_object (distinct : Fields.Distinct entries) :
    ofJson? (.object entries) = ((entries.lookup "utility").bind Json.asString?).bind fun utility =>
      (parametersOfJson? (entries.lookup "parameters")).map (Call.mk utility) := by
  have once : (Json.once entries "utility" && Json.once entries "parameters") = true := by
    rw [Json.once_of_distinct distinct, Json.once_of_distinct distinct]
    rfl
  rw [ofJson?, if_pos once]
  cases entries.lookup "utility" with
  | none => rfl
  | some json => cases json <;> rfl

theorem ofValue?_object (distinct : Fields.Distinct entries) :
    ofValue? (.ofJson (.object entries)) =
      ((entries.lookup "utility").bind Json.asString?).map fun utility =>
        ⟨utility, parametersOf ((entries.lookup "parameters").map Value.ofJson)⟩ := by
  rw [Value.ofJson_object distinct, ofValue?, Fields.find?, Fields.find?,
    Value.lookup_ofJsonEntries, Value.lookup_ofJsonEntries]
  cases entries.lookup "utility" with
  | none => rfl
  | some json => cases json <;> rfl

theorem ofValue?_positional {json : Json} (positional : json.IsPositional) :
    (∃ call, ofJson? json = some call) ∧ ofValue? (.ofJson json) = none := by
  unfold Json.IsPositional at positional
  split at positional
  · exact ⟨⟨_, rfl⟩, rfl⟩
  · exact ⟨⟨_, rfl⟩, rfl⟩
  · exact positional.elim

theorem ofValue?_loose {json : Json} (settled : json.Settled) (loose : json.HasLooseParameters) :
    ofJson? json = none ∧ ∃ call, ofValue? (.ofJson json) = some call := by
  unfold Json.HasLooseParameters at loose
  split at loose
  · obtain ⟨⟨utility, named⟩, given, found, noList⟩ := loose
    rw [ofJson?_object settled.1, ofValue?_object settled.1, named, found]
    refine ⟨?_, _, rfl⟩
    cases given with
    | array items => exact absurd rfl (noList items)
    | _ => rfl
  · exact loose.elim

/-- In all other spellings the two readers find the same call, or none. -/
theorem ofJson?_eq_ofValue? {json : Json} (settled : json.Settled) (keyed : ¬ json.IsPositional)
    (listed : ¬ json.HasLooseParameters) : ofJson? json = ofValue? (.ofJson json) := by
  cases json with
  | array items =>
      unfold ofJson?
      split
      · contradiction
      · rename_i same
        cases same
        exact (keyed trivial).elim
      · rename_i same
        cases same
        exact (keyed trivial).elim
      · rfl
  | object entries =>
      rw [ofJson?_object settled.1, ofValue?_object settled.1]
      cases named : (entries.lookup "utility").bind Json.asString? with
      | none => rfl
      | some utility =>
          cases found : entries.lookup "parameters" with
          | none => rfl
          | some given =>
              cases given with
              | array items => rfl
              | _ =>
                  obtain ⟨json, first, text⟩ := Option.bind_eq_some_iff.mp named
                  cases json with
                  | string name => exact absurd ⟨⟨name, first⟩, _, found, by simp⟩ listed
                  | _ => cases text
  | _ => rfl

end Call

namespace Node

def holding (json : Json) : Json := .object [("children", json)]

theorem ofJson?_holding {json : Json} (filled : json ≠ .null)
    (wordless : ∀ text, json ≠ .string text)
    (childless : ∀ items, json = .array items → ofItems? items = none) :
    ofJson? (holding json) =
      (Call.ofJson? json).map fun call => { children := some (.call call) } := by
  have slot : childrenSlot? json =
      (Call.ofJson? json).map fun call => some (Children.call call) := by
    cases json with
    | null => contradiction
    | string text => exact absurd rfl (wordless text)
    | array items => rw [childrenSlot?, childless items rfl]
    | _ => rfl
  have named : Slot.ofName? "children" = some .children := rfl
  have once : (Slot.all.all fun slot => Json.once [("children", json)] slot.name) = true := by
    rfl
  rw [holding, ofJson?, if_pos once]
  change (ofEntries? [(Slot.children.name, json)]).map _ = _
  rw [ofEntries?_slot]
  change ((childrenSlot? json).map _).map _ = _
  rw [slot]
  cases Call.ofJson? json <;> rfl

/--
Content and values spell calls alike exactly if the call is neither by position nor has parameters
that are no list. A list that is a call by position is a call as content and no call as a value; with
loose parameters an object is a call as a value, and a node cannot hold it.
-/
theorem calls_recognised_alike_iff {json : Json} (settled : json.Settled) (filled : json ≠ .null)
    (wordless : ∀ text, json ≠ .string text)
    (childless : ∀ items, json = .array items → ofItems? items = none) :
    (((∀ call, ofJson? (holding json) = some { children := some (.call call) } ↔
          Call.ofValue? (.ofJson json) = some call) ∧
        (Call.ofValue? (.ofJson json) = none → ofJson? (holding json) = none)) ↔
      ¬ json.IsPositional ∧ ¬ json.HasLooseParameters) ∧
    (json.IsPositional →
      (∃ call, ofJson? (holding json) = some { children := some (.call call) }) ∧
        Call.ofValue? (.ofJson json) = none) ∧
    (json.HasLooseParameters →
      ofJson? (holding json) = none ∧ ∃ call, Call.ofValue? (.ofJson json) = some call) := by
  have read := ofJson?_holding filled wordless childless
  have positional (given : json.IsPositional) :
      (∃ call, ofJson? (holding json) = some { children := some (.call call) }) ∧
        Call.ofValue? (.ofJson json) = none := by
    obtain ⟨⟨call, found⟩, unknown⟩ := Call.ofValue?_positional given
    exact ⟨⟨call, by rw [read, found, Option.map_some]⟩, unknown⟩
  have loose (given : json.HasLooseParameters) :
      ofJson? (holding json) = none ∧ ∃ call, Call.ofValue? (.ofJson json) = some call := by
    obtain ⟨refused, found⟩ := Call.ofValue?_loose settled given
    exact ⟨by rw [read, refused, Option.map_none], found⟩
  refine ⟨⟨?_, ?_⟩, positional, loose⟩
  · rintro ⟨alike, rejected⟩
    constructor
    · intro given
      obtain ⟨⟨call, held⟩, unknown⟩ := positional given
      rw [rejected unknown] at held
      cases held
    · intro given
      obtain ⟨refused, call, found⟩ := loose given
      rw [(alike call).mpr found] at refused
      cases refused
  · rintro ⟨keyed, listed⟩
    rw [read, Call.ofJson?_eq_ofValue? settled keyed listed]
    cases Call.ofValue? (.ofJson json) with
    | none => simp
    | some call => simp

def joinedNames : Json :=
  .object [("note", .null), ("parameters", .array [.array [.string "a"], .string "-"]),
    ("utility", .string "join")]

theorem joinedNames_recognised :
    joinedNames.Settled ∧ ¬ joinedNames.IsPositional ∧ ¬ joinedNames.HasLooseParameters ∧
      ofJson? (holding joinedNames) =
        some { children := some (.call ⟨"join", [.array [.string "a"], .string "-"]⟩) } := by
  have names : ["note", "parameters", "utility"].Nodup := by decide
  have settled : joinedNames.Settled :=
    ⟨names, trivial, ⟨⟨trivial, trivial⟩, trivial, trivial⟩, trivial, trivial⟩
  have listed : ¬ joinedNames.HasLooseParameters := by
    rintro ⟨_, given, found, noList⟩
    cases found
    exact noList _ rfl
  have alike := (calls_recognised_alike_iff settled (by rintro ⟨⟩) (by rintro _ ⟨⟩)
    (by rintro _ ⟨⟩)).1.mpr ⟨id, listed⟩
  exact ⟨settled, id, listed, (alike.1 _).mpr rfl⟩

/-- A list of one text is no call, and no list of nodes, and yet it is read as a call. -/
theorem text_list_read_as_call :
    (Json.array [.string "hello"]).Settled ∧ ofItems? [.string "hello"] = none ∧
      Call.ofValue? (.ofJson (.array [.string "hello"])) = none ∧
      ofJson? (holding (.array [.string "hello"])) =
        some { children := some (.call ⟨"hello", []⟩) } :=
  ⟨⟨trivial, trivial⟩, rfl, rfl, rfl⟩

end Node

end MarkupTree
