import MarkupTree.Extension.Foreach
import MarkupTree.Proofs.Documents.Calls

/-!
Trees that are held in values. A document may be read as a value first, and the value as the tree
that its own document spells: this is the tree that the first document spells, if it spells one.
-/

namespace MarkupTree

namespace Json

def rewritten (json : Json) : Json := (Value.ofJson json).toJson

theorem rewritten_object {entries : List (String × Json)} (distinct : Fields.Distinct entries) :
    (Json.object entries).rewritten =
      .object (Value.toJsonEntries (Value.ofJsonEntries entries)) := by
  rw [rewritten, Value.ofJson_object distinct, Value.toJson]

theorem ofJson_rewritten {json : Json} (finite : json.IsFinite) :
    Value.ofJson json.rewritten = (Value.ofJson json).unsigned :=
  Value.ofJson_toJson (Value.spelled_ofJson finite)

def IsNumber : Json → Prop
  | .integer _ | .number _ => True
  | _ => False

theorem isNumber_numberToJson {n : Float} (finite : n.isFinite = true) :
    (Value.numberToJson n).IsNumber := by
  unfold Value.numberToJson
  split
  · trivial
  · rw [if_pos finite]
    trivial

theorem read_rewritten {α : Type} (read : Json → α) {refused : α}
    (integers : ∀ n, read (.integer n) = refused) (numbers : ∀ n, read (.number n) = refused)
    {json : Json} (number : json.IsNumber) (finite : json.IsFinite) :
    read json.rewritten = refused := by
  have written : json.rewritten.IsNumber := by
    cases json with
    | integer n => exact isNumber_numberToJson finite
    | number n => exact isNumber_numberToJson finite
    | _ => exact number.elim
  generalize json.rewritten = other at written
  cases other with
  | integer n => exact integers n
  | number n => exact numbers n
  | _ => exact written.elim

theorem optionalText?_rewritten {json : Json} (finite : json.IsFinite) :
    json.rewritten.optionalText? = json.optionalText? := by
  cases json with
  | integer n => exact read_rewritten optionalText? (fun _ => rfl) (fun _ => rfl) trivial finite
  | number n => exact read_rewritten optionalText? (fun _ => rfl) (fun _ => rfl) trivial finite
  | _ => rfl

theorem asString?_rewritten {json : Json} (finite : json.IsFinite) :
    json.rewritten.asString? = json.asString? := by
  cases json with
  | integer n => exact read_rewritten asString? (fun _ => rfl) (fun _ => rfl) trivial finite
  | number n => exact read_rewritten asString? (fun _ => rfl) (fun _ => rfl) trivial finite
  | _ => rfl

end Json

namespace Value

theorem lookup_toJsonEntries (fields : List (String × Value)) (name : String) :
    (toJsonEntries fields).lookup name = (fields.lookup name).map toJson := by
  induction fields with
  | nil => rfl
  | cons field rest ih =>
      obtain ⟨other, value⟩ := field
      rw [toJsonEntries, List.lookup_cons, List.lookup_cons]
      split
      · rfl
      · exact ih

theorem names_toJsonEntries (fields : List (String × Value)) :
    Fields.names (toJsonEntries fields) = Fields.names fields := by
  induction fields with
  | nil => rfl
  | cons field rest ih => exact congrArg (field.1 :: ·) ih

theorem lookup_rewritten (entries : List (String × Json)) (name : String) :
    (toJsonEntries (ofJsonEntries entries)).lookup name =
      (entries.lookup name).map Json.rewritten := by
  rw [lookup_toJsonEntries, lookup_ofJsonEntries, Option.map_map]
  rfl

theorem distinct_rewritten {entries : List (String × Json)} (distinct : Fields.Distinct entries) :
    Fields.Distinct (toJsonEntries (ofJsonEntries entries)) := by
  rw [Fields.Distinct, names_toJsonEntries, names_ofJsonEntries]
  exact distinct

end Value

open Json (rewritten)

namespace Call

theorem parametersOfJson?_rewritten {given : Option Json}
    (finite : ∀ json, given = some json → json.IsFinite) :
    parametersOfJson? (given.map rewritten) =
      (parametersOfJson? given).map Value.unsignedItems := by
  cases given with
  | none => rfl
  | some json =>
      have own := finite json rfl
      cases json with
      | integer n =>
          exact Json.read_rewritten (fun json => parametersOfJson? (some json)) (fun _ => rfl)
            (fun _ => rfl) trivial own
      | number n =>
          exact Json.read_rewritten (fun json => parametersOfJson? (some json)) (fun _ => rfl)
            (fun _ => rfl) trivial own
      | array items =>
          exact congrArg some (Value.ofJsonItems_toJsonItems (Value.itemsSpelled_ofJsonItems own))
      | _ => rfl

theorem ofJson?_name (first : Json) :
    ofJson? (.array [first]) = first.asString?.map fun utility => ⟨utility, []⟩ := by
  cases first <;> rfl

theorem ofJson?_applied (first second : Json) :
    ofJson? (.array [first, second]) = first.asString?.bind fun utility =>
      (parametersOfJson? (some second)).map (Call.mk utility) := by
  cases first <;> cases second <;> rfl

theorem ofJson?_rewritten {json : Json} (settled : json.Settled) (finite : json.IsFinite) :
    ofJson? json.rewritten = (ofJson? json).map unsigned := by
  cases json with
  | integer | number =>
      exact Json.read_rewritten ofJson? (fun _ => rfl) (fun _ => rfl) trivial finite
  | array items =>
      rcases items with _ | ⟨first, _ | ⟨second, _ | ⟨third, rest⟩⟩⟩
      · rfl
      · change ofJson? (.array [first.rewritten]) = _
        rw [ofJson?_name, ofJson?_name, Json.asString?_rewritten finite.1, Option.map_map]
        rfl
      · have given : ∀ json, some second = some json → json.IsFinite := by
          rintro _ ⟨⟩
          exact finite.2.1
        have parameters := parametersOfJson?_rewritten given
        rw [Option.map_some] at parameters
        change ofJson? (.array [first.rewritten, second.rewritten]) = _
        rw [ofJson?_applied, ofJson?_applied, Json.asString?_rewritten finite.1, parameters]
        cases first.asString? with
        | none => rfl
        | some utility => cases parametersOfJson? (some second) <;> rfl
      · -- No call by position has a third part.
        have none (first second third : Json) (rest : List Json) :
            ofJson? (.array (first :: second :: third :: rest)) = none := by
          cases first <;> cases second <;> rfl
        rw [none, Option.map_none]
        exact none _ _ _ _
  | object entries =>
      have utility : ((entries.lookup "utility").map rewritten).bind Json.asString? =
          (entries.lookup "utility").bind Json.asString? := by
        cases found : entries.lookup "utility" with
        | none => rfl
        | some json => exact Json.asString?_rewritten (Json.EntriesFinite.lookup finite found)
      have parameters := parametersOfJson?_rewritten fun json
          (found : entries.lookup "parameters" = some json) =>
        Json.EntriesFinite.lookup finite found
      rw [Json.rewritten_object settled.1, ofJson?_object (Value.distinct_rewritten settled.1),
        ofJson?_object settled.1, Value.lookup_rewritten, Value.lookup_rewritten, utility,
        parameters]
      cases (entries.lookup "utility").bind Json.asString? with
      | none => rfl
      | some utility => cases parametersOfJson? (entries.lookup "parameters") <;> rfl
  | _ => rfl

end Call

namespace Node

theorem bindingsSlot?_rewritten {json : Json} (settled : json.Settled) (finite : json.IsFinite) :
    bindingsSlot? json.rewritten = (bindingsSlot? json).map (Option.map Bindings.unsigned) := by
  cases json with
  | integer | number =>
      exact Json.read_rewritten bindingsSlot? (fun _ => rfl) (fun _ => rfl) trivial finite
  | object entries =>
      have fields := Value.ofJsonEntries_toJsonEntries (Value.fieldsSpelled_ofJsonEntries finite)
      have distinct : Fields.Distinct (Value.ofJsonEntries entries) := by
        rw [Fields.Distinct, Value.names_ofJsonEntries]
        exact settled.1
      rw [Json.rewritten_object settled.1]
      simp only [bindingsSlot?, Bindings.ofJson?, fields, Fields.collect_of_distinct distinct,
        Fields.collect_of_distinct (Value.distinct_unsignedFields distinct),
        Bindings.ofFields_unsigned, Option.map_some]
  | _ => rfl

theorem fill?_rewritten {json : Json} (settled : json.Settled) (finite : json.IsFinite)
    (content : childrenSlot? json.rewritten =
      (childrenSlot? json).map (Option.map unsignedContent)) (node : Node) (slot : Slot) :
    node.unsigned.fill? json.rewritten slot = (node.fill? json slot).map unsigned := by
  cases slot <;> simp only [fill?, unsigned_eq, Json.optionalText?_rewritten finite,
    bindingsSlot?_rewritten settled finite, content, Option.map_map, Function.comp_def]

theorem unsigned_collect (node : Node) :
    ({ node with fields := Fields.collect node.fields } : Node).unsigned =
      { node.unsigned with fields := Fields.collect node.unsigned.fields } := by
  simp only [unsigned_eq, Value.unsignedFields_eq, Fields.collect_mapValues]

mutual

theorem ofJson?_rewritten : ∀ {json : Json}, json.Settled → json.IsFinite →
    ofJson? json.rewritten = (ofJson? json).map unsigned
  | .null, _, _ | .bool _, _, _ | .string _, _, _ | .array _, _, _ => rfl
  | .integer _, _, finite | .number _, _, finite =>
    Json.read_rewritten ofJson? (fun _ => rfl) (fun _ => rfl) trivial finite
  | .object entries, settled, finite => by
      have once {entries : List (String × Json)} (distinct : Fields.Distinct entries) :
          (Slot.all.all fun slot => Json.once entries slot.name) = true :=
        List.all_eq_true.mpr fun slot _ => Json.once_of_distinct distinct slot.name
      rw [Json.rewritten_object settled.1, ofJson?, ofJson?, if_pos (once settled.1),
        if_pos (once (Value.distinct_rewritten settled.1)),
        ofEntries?_rewritten settled.2 finite, Option.map_map, Option.map_map]
      refine congrArg (fun change => Option.map change (ofEntries? entries)) (funext fun node => ?_)
      exact (unsigned_collect node).symm

theorem ofEntries?_rewritten : ∀ {entries : List (String × Json)}, Json.EntriesSettled entries →
    Json.EntriesFinite entries →
    ofEntries? (Value.toJsonEntries (Value.ofJsonEntries entries)) =
      (ofEntries? entries).map unsigned
  | [], _, _ => rfl
  | (name, json) :: rest, settled, finite => by
      have others := ofEntries?_rewritten settled.2 finite.2
      change ofEntries? ((name, json.rewritten) ::
        Value.toJsonEntries (Value.ofJsonEntries rest)) = _
      cases named : Slot.ofName? name with
      | none =>
          rw [ofEntries?_field named, ofEntries?_field named, others,
            Json.ofJson_rewritten finite.1]
          cases ofEntries? rest with
          | none => rfl
          | some node => simp only [Option.map_some, unsigned_eq, Value.unsignedFields]
      | some slot =>
          have content := childrenSlot?_rewritten settled.1 finite.1
          rw [← Slot.name_of_ofName? named, ofEntries?_slot, ofEntries?_slot, others]
          cases ofEntries? rest with
          | none => rfl
          | some node => exact fill?_rewritten settled.1 finite.1 content node slot

theorem childrenSlot?_rewritten : ∀ {json : Json}, json.Settled → json.IsFinite →
    childrenSlot? json.rewritten = (childrenSlot? json).map (Option.map unsignedContent)
  | .null, _, _ | .bool _, _, _ | .string _, _, _ => rfl
  | .integer _, _, finite | .number _, _, finite =>
    Json.read_rewritten childrenSlot? (fun _ => rfl) (fun _ => rfl) trivial finite
  | .array items, settled, finite => by
      have call : Call.ofJson? (Json.array items).rewritten = _ :=
        Call.ofJson?_rewritten settled finite
      change childrenSlot? (.array (Value.toJsonItems (Value.ofJsonItems items))) = _
      rw [childrenSlot?, childrenSlot?, ofItems?_rewritten settled finite]
      cases ofItems? items with
      | some nodes => rfl
      | none =>
          change (Call.ofJson? (Json.array items).rewritten).map _ = _
          rw [call]
          cases Call.ofJson? (.array items) <;> rfl
  | .object entries, settled, finite => by
      have call : Call.ofJson? (Json.object entries).rewritten = _ :=
        Call.ofJson?_rewritten settled finite
      rw [Json.rewritten_object settled.1] at call ⊢
      change (Call.ofJson? _).map _ = ((Call.ofJson? (.object entries)).map _).map _
      rw [call]
      cases Call.ofJson? (.object entries) <;> rfl

theorem ofItems?_rewritten : ∀ {items : List Json}, Json.ItemsSettled items →
    Json.ItemsFinite items →
    ofItems? (Value.toJsonItems (Value.ofJsonItems items)) = (ofItems? items).map unsignedItems
  | [], _, _ => rfl
  | item :: rest, settled, finite => by
      change ofItems? (item.rewritten :: Value.toJsonItems (Value.ofJsonItems rest)) = _
      rw [ofItems?, ofItems?, ofJson?_rewritten settled.1 finite.1,
        ofItems?_rewritten settled.2 finite.2]
      cases ofJson? item with
      | none => rfl
      | some node => cases ofItems? rest <;> rfl

end

end Node

namespace Fragment

theorem ofJson?_rewritten {json : Json} (settled : json.Settled) (finite : json.IsFinite) :
    ofJson? json.rewritten = (ofJson? json).map unsigned := by
  have node := Node.ofJson?_rewritten settled finite
  cases json with
  | array items =>
      have nodes := Node.ofItems?_rewritten settled finite
      change (Node.ofItems? _).map Fragment.many = ((Node.ofItems? items).map Fragment.many).map _
      rw [nodes, Option.map_map, Option.map_map]
      rfl
  | integer | number =>
      exact Json.read_rewritten ofJson? (fun _ => rfl) (fun _ => rfl) trivial finite
  | object entries =>
      rw [Json.rewritten_object settled.1] at node ⊢
      change (Node.ofJson? _).map Fragment.one = ((Node.ofJson? (.object entries)).map _).map _
      rw [node, Option.map_map, Option.map_map]
      rfl
  | _ => rfl

theorem ofValue_eq_ok_iff {value : Value} {tree : Fragment} :
    ofValue value = .ok tree ↔ ofJson? value.toJson = some tree := by
  cases value with
  | number n =>
      rw [Value.toJson, Value.numberToJson]
      split
      · simp [ofValue, Value.kind, ofJson?, Node.ofJson?]
      · split <;> simp [ofValue, Value.kind, ofJson?, Node.ofJson?]
  | array items =>
      simp only [ofValue, Value.kind]
      cases ofJson? (Value.array items).toJson <;> simp
  | object fields =>
      simp only [ofValue, Value.kind]
      cases ofJson? (Value.object fields).toJson <;> simp
  | _ => simp [ofValue, Value.kind, Value.toJson, ofJson?, Node.ofJson?]

/--
A tree that is held in a value is the tree that its document spells: the same nodes, bindings and
fields in the same order, and no tree where the document spells none. So it is the template of an
iteration, and what `render` renders. The two trees are equal; only the sign of a zero may be lost,
because numbers without a fraction are written as integers on the way.
-/
theorem held_in_value {json : Json} (settled : json.Settled) (finite : json.IsFinite) :
    (∀ held, ofValue (.ofJson json) = .ok held ↔
      ∃ tree, ofJson? json = some tree ∧ tree.unsigned = held) ∧
    ∀ tree, ofJson? json = some tree →
      (tree.unsigned == tree) = true ∧
      Foreach.template (.ofJson json) = .ok tree.unsigned ∧
      ∀ scope expr others, Expr.evaluate scope expr = .ok (some (.ofJson json)) →
        Expr.evaluate scope (.call (.identifier "render") (expr :: others)) =
          ((scope.render tree.unsigned).mapError .fatal).map fun markup => some (.string markup) := by
  have same (held : Fragment) : ofValue (.ofJson json) = .ok held ↔
      ∃ tree, ofJson? json = some tree ∧ tree.unsigned = held := by
    rw [ofValue_eq_ok_iff, ← Option.map_eq_some_iff, ← ofJson?_rewritten settled finite]
    rfl
  refine ⟨same, fun tree spelled => ?_⟩
  have read := (same tree.unsigned).mpr ⟨tree, spelled, rfl⟩
  have template : Foreach.template (.ofJson json) = .ok tree.unsigned := by
    rw [Foreach.template, read]
  refine ⟨beq_unsigned finite spelled, template, fun scope expr others held => ?_⟩
  have called : Expr.calleeOf scope (.identifier "render") = .render := rfl
  have target : Expr.evaluateFirst scope (expr :: others) = .ok (some (.ofJson json)) := by
    rw [Expr.evaluateFirst, held]
  simp only [Expr.evaluate, called, target]
  change Expr.renderTarget scope (some (.ofJson json)) = _
  simp only [Expr.renderTarget, read]
  cases scope.render tree.unsigned <;> rfl

def priceTag : Json :=
  .array [.object [("weight", .integer 1000000000000000), ("element", .string "b"),
    ("attributes", .object [("__title", .string "name"), ("n", .number 0.5), ("z", .number (-0.0))]),
    ("children", .array [.object [("children", .object [("parameters", .array [.integer (-3)]),
      ("utility", .string "price")])]])]]

theorem priceTag_held :
    priceTag.Settled ∧ priceTag.IsFinite ∧
      ∃ tree, ofJson? priceTag = some tree ∧ (tree.unsigned == tree) = true ∧
        Foreach.template (.ofJson priceTag) = .ok tree.unsigned ∧
        ∀ scope : Scope, scope.context = .ofJson (.object [("tag", priceTag)]) →
          Expr.evaluate scope
              (.call (.identifier "render") [.member (.identifier "context") "tag"]) =
            ((scope.render tree.unsigned).mapError .fatal).map fun markup =>
              some (.string markup) := by
  have outer : ["weight", "element", "attributes", "children"].Nodup := by decide
  have attributes : ["__title", "n", "z"].Nodup := by decide
  have call : ["parameters", "utility"].Nodup := by decide
  have settled : priceTag.Settled := by
    refine ⟨⟨outer, trivial, trivial, ?_, ?_, trivial⟩, trivial⟩
    · exact ⟨attributes, trivial, trivial, trivial, trivial⟩
    · exact ⟨⟨List.nodup_singleton _, ⟨call, ⟨trivial, trivial⟩, trivial, trivial⟩, trivial⟩, trivial⟩
  have finite : priceTag.IsFinite := by
    simp only [priceTag, Json.IsFinite, Json.EntriesFinite, Json.ItemsFinite, true_and, and_true]
    decide
  obtain ⟨tree, spelled⟩ : ∃ tree, ofJson? priceTag = some tree := ⟨_, rfl⟩
  obtain ⟨same, template, rendered⟩ := (held_in_value settled finite).2 tree spelled
  refine ⟨settled, finite, tree, spelled, same, template, fun scope context => ?_⟩
  refine rendered scope _ [] ?_
  have static : Expr.staticPath (.member (.identifier "context") "tag") = some "context.tag" := rfl
  simp only [Expr.evaluate, static, Scope.lookup, context]
  rfl

end Fragment

end MarkupTree
